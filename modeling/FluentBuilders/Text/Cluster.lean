/-
  Clusters — the pieces of a text that a reader takes for one character.

  A cluster is a character with all that is set on it or joined to it: marks, the parts of an emoji,
  the letters of a Hangul syllable, the two halves of a flag.  `clusters` cuts a text into them and
  loses nothing: put together again they are the text.
-/
import FluentBuilders.Text.ClusterTable
import FluentBuilders.Text.PrintTable

namespace FluentBuilders.Text

/-! ## Classes of characters -/

/-- What a character does to the cut in front of it and behind it. -/
inductive ClusterClass
  | plain
  | carriageReturn
  | lineFeed
  | steering
  | mark
  | joiner
  | spacing
  | leading
  | flagHalf
  | picture
  | initial
  | vowel
  | final
  | openSyllable
  | closedSyllable
  deriving DecidableEq, Repr

/-- The class of a Hangul syllable or of one of its letters. -/
def hangulClass (n : Nat) : Option ClusterClass :=
  if 0x1100 ≤ n && n ≤ 0x115F || 0xA960 ≤ n && n ≤ 0xA97C then some .initial
  else if 0x1160 ≤ n && n ≤ 0x11A7 || 0xD7B0 ≤ n && n ≤ 0xD7C6 then some .vowel
  else if 0x11A8 ≤ n && n ≤ 0x11FF || 0xD7CB ≤ n && n ≤ 0xD7FB then some .final
  else if 0xAC00 ≤ n && n ≤ 0xD7A3 then
    some (if (n - 0xAC00) % 28 == 0 then .openSyllable else .closedSyllable)
  else none

/-- Whether a code point is a mark set on the character in front of it, or a skin tone. -/
def isAttached (n : Nat) : Bool :=
  inSpans attachingSpans n || n == 0xFF9E || n == 0xFF9F || 0x1F3FB ≤ n && n ≤ 0x1F3FF

/-- The class of a character beyond ASCII. -/
def wideClusterClass (n : Nat) : ClusterClass :=
  if n < 0xA0 || inSpans steeringSpans n then .steering
  else if n == 0x200D then .joiner
  else if isAttached n then .mark
  else if inSpans spacingSpans n then .spacing
  else if inSpans leadingSpans n then .leading
  else if 0x1F1E6 ≤ n && n ≤ 0x1F1FF then .flagHalf
  else if inSpans pictureSpans n then .picture
  else (hangulClass n).getD .plain

/-- The class of a character. -/
def clusterClass (c : Char) : ClusterClass :=
  if c == '\r' then .carriageReturn
  else if c == '\n' then .lineFeed
  else if c.toNat < 0x20 || c.toNat == 0x7F then .steering
  else if c.toNat < 0x7F then .plain
  else wideClusterClass c.toNat

/-! ## Cuts -/

/-- A cluster under way: the class of its last character, and what it may still take. -/
structure Opened where
  last : ClusterClass
  /-- The cluster is a picture with its marks, and perhaps a joiner behind them. -/
  pictured : Bool
  /-- The cluster ends in the first half of a flag. -/
  halfFlag : Bool
  deriving DecidableEq, Repr

/-- A cluster that a character begins. -/
def Opened.ofClass (k : ClusterClass) : Opened := ⟨k, k == .picture, k == .flagHalf⟩

/-- The cluster with a character more. -/
def Opened.push (o : Opened) (k : ClusterClass) : Opened :=
  { last := k
    pictured := k == .picture || o.pictured && o.last != .joiner && (k == .mark || k == .joiner)
    halfFlag := k == .flagHalf && !o.halfFlag }

/-- Whether the cluster goes on with a character. -/
def Opened.takes (o : Opened) (k : ClusterClass) : Bool :=
  match o.last, k with
  | .carriageReturn, .lineFeed => true
  | .carriageReturn, _ | .lineFeed, _ | .steering, _ => false
  | _, .carriageReturn | _, .lineFeed | _, .steering => false
  | _, .mark | _, .joiner | _, .spacing => true
  | .leading, _ => true
  | .initial, .initial | .initial, .vowel | .initial, .openSyllable
  | .initial, .closedSyllable => true
  | .openSyllable, .vowel | .openSyllable, .final | .vowel, .vowel | .vowel, .final => true
  | .closedSyllable, .final | .final, .final => true
  | .joiner, .picture => o.pictured
  | .flagHalf, .flagHalf => o.halfFlag
  | _, _ => false

/-- The characters that a cluster under way still takes, and those behind it. -/
def spanCluster : Opened → List Char → List Char × List Char
  | _, [] => ([], [])
  | o, c :: cs =>
    let k := clusterClass c
    if o.takes k then
      let (a, b) := spanCluster (o.push k) cs
      (c :: a, b)
    else ([], c :: cs)

theorem spanCluster_length_le (o : Opened) (cs : List Char) :
    (spanCluster o cs).2.length ≤ cs.length := by
  induction cs generalizing o with
  | nil => simp [spanCluster]
  | cons c cs ih =>
    rw [spanCluster]
    dsimp only
    split
    · exact Nat.le_succ_of_le (ih _)
    · exact Nat.le_refl _

/-- The clusters of some characters. -/
def clustersOf : List Char → List String
  | [] => []
  | c :: cs =>
    String.ofList (c :: (spanCluster (.ofClass (clusterClass c)) cs).1)
      :: clustersOf (spanCluster (.ofClass (clusterClass c)) cs).2
termination_by cs => cs.length
decreasing_by exact Nat.lt_succ_of_le (spanCluster_length_le _ _)

/-- The clusters of a text. -/
def clusters (s : String) : List String := clustersOf s.toList

end FluentBuilders.Text
