/-
  Holding — reading back a value that a tree holds.

  A tree holds a JSON value when a reader that needs the value gets it, wherever its parts lie in
  the text.  What a reader makes of such a tree is said with no offset: `Reads read a v` says that
  `read` makes `a` of every tree that holds `v`, given room for its levels.

  A record is written with its fields in order, some of them left out.  `Fills` follows the fields
  and the members side by side, one constructor for a field that is there and one for a field that
  is not, and so turns one record into one term of as many steps as it has fields.
-/
import FluentBuilders.Proofs.Json.Reading

namespace FluentBuilders

/-! ## Levels -/

mutual

/-- How many nested lists and objects a value has. -/
def Json.depth : Json → Nat
  | .null | .bool _ | .number _ | .text _ => 0
  | .list items => Json.depthItems items + 1
  | .object members => Json.depthMembers members + 1

/-- The levels of the deepest of several values. -/
def Json.depthItems : List Json → Nat
  | [] => 0
  | v :: r => max v.depth (Json.depthItems r)

/-- The levels of the deepest value of several members. -/
def Json.depthMembers : List (String × Json) → Nat
  | [] => 0
  | (_, v) :: r => max v.depth (Json.depthMembers r)

end

namespace Json

@[simp] theorem depth_text (s : String) : (Json.text s).depth = 0 := by rw [depth]

@[simp] theorem depth_bool (b : Bool) : (Json.bool b).depth = 0 := by rw [depth]

@[simp] theorem depth_ofNat (n : Nat) : (Json.ofNat n).depth = 0 := by rw [ofNat, depth]

@[simp] theorem depth_list (items : List Json) :
    (Json.list items).depth = depthItems items + 1 := by
  rw [depth]

@[simp] theorem depth_object (members : List (String × Json)) :
    (Json.object members).depth = depthMembers members + 1 := by
  rw [depth]

@[simp] theorem depthItems_nil : depthItems [] = 0 := by rw [depthItems]

@[simp] theorem depthItems_cons (v : Json) (r : List Json) :
    depthItems (v :: r) = max v.depth (depthItems r) := by
  rw [depthItems]

@[simp] theorem depthMembers_nil : depthMembers [] = 0 := by rw [depthMembers]

@[simp] theorem depthMembers_cons (m : String × Json) (r : List (String × Json)) :
    depthMembers (m :: r) = max m.2.depth (depthMembers r) := by
  rw [depthMembers]

@[simp] theorem depthMembers_append (l r : List (String × Json)) :
    depthMembers (l ++ r) = max (depthMembers l) (depthMembers r) := by
  induction l with
  | nil => rw [List.nil_append, depthMembers_nil, Nat.zero_max]
  | cons m l ih => rw [List.cons_append, depthMembers_cons, depthMembers_cons, ih, Nat.max_assoc]

/-- A list is as deep as its deepest item. -/
theorem depthItems_le {items : List Json} {n : Nat} :
    depthItems items ≤ n ↔ ∀ v ∈ items, v.depth ≤ n := by
  induction items with
  | nil =>
    rw [depthItems_nil]
    exact ⟨fun _ => nofun, fun _ => Nat.zero_le n⟩
  | cons v r ih => rw [depthItems_cons, Nat.max_le, ih, List.forall_mem_cons]

/-! ## Trees that hold a value -/

mutual

/-- The tree holds the value. -/
inductive Tree.Holds : Tree → Json → Prop
  | null {s k : Nat} : Tree.Holds (.null s k) .null
  | bool {s k : Nat} {b : Bool} : Tree.Holds (.bool s b k) (.bool b)
  | number {s : Nat} {l : Lexeme Number} {n : Number} (h : l.read = .ok n) :
      Tree.Holds (.number s l) (.number n)
  | text {s : Nat} {l : Lexeme String} {v : String} (h : l.read = .ok v) :
      Tree.Holds (.text s l) (.text v)
  | list {s : Nat} {items : Items} {vs : List Json} (h : Items.Holds items vs) :
      Tree.Holds (.list s items) (.list vs)
  | object {s : Nat} {members : Members} {ms : List (String × Json)}
      (h : Members.Holds members ms) : Tree.Holds (.object s members) (.object ms)

/-- The rest of a list holds the values. -/
inductive Items.Holds : Items → List Json → Prop
  | close {k : Nat} : Items.Holds (.close k) []
  | item {t : Tree} {rest : Items} {v : Json} {vs : List Json} (hv : Tree.Holds t v)
      (hr : Items.Holds rest vs) : Items.Holds (.item t rest) (v :: vs)

/-- The rest of an object holds the members. -/
inductive Members.Holds : Members → List (String × Json) → Prop
  | close {k : Nat} : Members.Holds (.close k) []
  | member {key : Lexeme String} {name : String} {colon next : Nat} {t : Tree} {rest : Members}
      {v : Json} {ms : List (String × Json)} (hk : key.read = .ok name) (hv : Tree.Holds t v)
      (hr : Members.Holds rest ms) :
      Members.Holds (.member key colon t next rest) ((name, v) :: ms)

end

/-! ## Single values -/

variable {α : Type}

/-- The reader makes `a` of every tree that holds `v`. -/
def Reads (read : Reader α) (a : α) (v : Json) : Prop :=
  ∀ room t, t.Holds v → v.depth ≤ room → read room t = .ok a

theorem reads_textAs (expected s : String) : Reads (readTextAs expected) s (.text s) := by
  intro room t ht _
  cases ht with
  | text h => exact get_eq_ok.mpr h

theorem reads_text (s : String) : Reads readText s (.text s) := reads_textAs _ s

theorem reads_flag (b : Bool) : Reads readFlag b (.bool b) := by
  intro room t ht _
  cases ht with
  | bool => rfl

theorem reads_word32 {n : Nat} (hn : n ≤ 0xFFFFFFFF) : Reads readWord32 n (.ofNat n) := by
  intro room t ht _
  cases ht with
  | number h =>
    refine bind_eq_ok.mpr ⟨_, get_eq_ok.mpr h, ?_⟩
    have hle : ((0 : Int) ≤ n && (n : Int) ≤ 0xFFFFFFFF) = true := by
      simp only [Bool.and_eq_true, decide_eq_true_eq]
      omega
    simp only [if_pos hle]
    rfl

theorem reads_option {read : Reader α} {a : α} {v : Json} (hv : v ≠ .null) (h : Reads read a v) :
    Reads (readOption read) (some a) v := by
  intro room t ht hd
  have hr := h room t ht hd
  cases ht with
  | null => exact absurd rfl hv
  | _ => exact map_eq_ok.mpr ⟨a, hr, rfl⟩

theorem reads_choice {variants : List (String × α)} {name : String} {a : α}
    (h : variants.lookup name = some a) : Reads (readChoice variants) a (.text name) := by
  intro room t ht _
  cases ht with
  | text hl =>
    have hn : ∀ stop, readChoice.named variants stop name = .ok a := by
      intro stop
      rw [readChoice.named, h]
    cases room <;> exact bind_eq_ok.mpr ⟨name, get_eq_ok.mpr hl, hn _⟩

/-! ## Lists -/

/-- Items that hold values are read one by one. -/
theorem read_of_holds {read : Tree → Except Failure α} {json : α → Json} :
    ∀ (as : List α), (∀ a ∈ as, ∀ t : Tree, t.Holds (json a) → read t = .ok a) →
      ∀ (items : Items) (i : Nat), items.Holds (as.map json) → items.read read i = .ok as
  | [], _, _, _, h => by
    cases h with
    | close => rfl
  | a :: as, hr, _, i, h => by
    cases h with
    | item hv hrest =>
      have ih := read_of_holds as (fun b hb => hr b (List.mem_cons_of_mem a hb)) _ (i + 1) hrest
      refine bind_eq_ok.mpr ⟨a, within_eq_ok.mpr (hr a List.mem_cons_self _ hv), ?_⟩
      exact bind_eq_ok.mpr ⟨as, ih, rfl⟩

/-- **A list is read back** if its items are. -/
theorem reads_list {read : Reader α} {json : α → Json} {as : List α}
    (h : ∀ a ∈ as, Reads read a (json a)) : Reads (readList read) as (.list (as.map json)) := by
  intro room t ht hd
  rw [depth_list] at hd
  cases ht with
  | list hi =>
    cases room with
    | zero => omega
    | succ room =>
      have hle := depthItems_le.mp (Nat.le_of_succ_le_succ hd)
      exact read_of_holds as
        (fun a ha t ht => h a ha room t ht (hle _ (List.mem_map_of_mem ha))) _ 0 hi

/-! ## Records -/

variable {σ : Type}

/-- The members give the fields, in order, the values that turn one record into the other. -/
inductive Fills : List (Field σ) → List (String × Json) → σ → σ → Prop
  | nil (s : σ) : Fills [] [] s s
  | given {x : Field σ} {fields : List (Field σ)} {v : Json} {ms : List (String × Json)}
      {s s₁ s' : σ} (h : ∀ room t, t.Holds v → v.depth ≤ room → x.read room t s = .ok s₁)
      (hr : Fills fields ms s₁ s') : Fills (x :: fields) ((x.key, v) :: ms) s s'
  | leftOut {x : Field σ} {fields : List (Field σ)} {ms : List (String × Json)} {s s' : σ}
      (h : x.required = false) (hr : Fills fields ms s s') : Fills (x :: fields) ms s s'

theorem Fills.field {fields : List (Field σ)} {v : Json} {ms : List (String × Json)} {s s' : σ}
    {key : String} {required : Bool} {read : Reader α} {put : σ → α → σ} {a : α}
    (h : Reads read a v) (hr : Fills fields ms (put s a) s') :
    Fills (.of key required read put :: fields) ((key, v) :: ms) s s' :=
  .given (fun room t ht hd => map_eq_ok.mpr ⟨a, h room t ht hd, rfl⟩) hr

/-- How far reading has come: no required field that is done is missing, and every key seen is that
    of a field that is done. -/
structure Progress (done : List (Field σ)) (seen : List String) : Prop where
  required : ∀ x ∈ done, x.required = true → x.key ∈ seen
  known : ∀ key ∈ seen, key ∈ done.map (·.key)

theorem Progress.given {done : List (Field σ)} {seen : List String} (h : Progress done seen)
    (x : Field σ) : Progress (done ++ [x]) (x.key :: seen) where
  required := fun y hy hr => by
    rcases List.mem_append.mp hy with hy | hy
    · exact List.mem_cons_of_mem _ (h.required y hy hr)
    · rw [List.mem_singleton.mp hy]
      exact List.mem_cons_self
  known := fun key hin => by
    rw [List.map_append, List.mem_append]
    rcases List.mem_cons.mp hin with rfl | hin
    · exact .inr List.mem_cons_self
    · exact .inl (h.known key hin)

theorem Progress.leftOut {done : List (Field σ)} {seen : List String} (h : Progress done seen)
    {x : Field σ} (hx : x.required = false) : Progress (done ++ [x]) seen where
  required := fun y hy hr => by
    rcases List.mem_append.mp hy with hy | hy
    · exact h.required y hy hr
    · rw [List.mem_singleton.mp hy, hx] at hr
      cases hr
  known := fun key hin => by
    rw [List.map_append, List.mem_append]
    exact .inl (h.known key hin)

/-- The next field is found by its key, which is not that of a field that is done. -/
theorem find?_next {done fields : List (Field σ)} {x : Field σ}
    (hk : ((done ++ x :: fields).map (·.key)).Nodup) :
    x.key ∉ done.map (·.key) ∧ (done ++ x :: fields).find? (·.key == x.key) = some x := by
  rw [List.map_append, List.nodup_append] at hk
  have hx : x.key ∉ done.map (·.key) := fun hin => hk.2.2 _ hin _ List.mem_cons_self rfl
  refine ⟨hx, ?_⟩
  rw [List.find?_append, List.find?_eq_none.mpr, Option.none_or, List.find?_cons_of_pos]
  · exact beq_self_eq_true _
  · intro y hy hb
    exact hx (List.mem_map.mpr ⟨y, hy, eq_of_beq hb⟩)

/-- Reading goes on in step with the members. -/
theorem Fills.readMembers {f : Form σ} (hk : (f.fields.map (·.key)).Nodup) {room : Nat}
    {fields : List (Field σ)} {ms : List (String × Json)} {s s' : σ} (h : Fills fields ms s s') :
    ∀ (done : List (Field σ)) (seen : List String) (members : Members),
      f.fields = done ++ fields → Progress done seen → members.Holds ms →
      depthMembers ms ≤ room → f.readMembers room seen s members = .ok s' := by
  induction h with
  | nil s =>
    intro done seen members hf hp hm _
    cases hm with
    | close =>
      rw [Form.readMembers]
      have hnone : f.fields.find? (fun x => x.required && !seen.contains x.key) = none := by
        rw [List.find?_eq_none, hf, List.append_nil]
        intro x hx hc
        rw [Bool.and_eq_true] at hc
        rw [List.contains_iff_mem.mpr (hp.required x hx hc.1)] at hc
        cases hc.2
      rw [hnone]
  | given hx hr ih =>
    rename_i x fields v ms s s₁ s'
    intro done seen members hf hp hm hd
    rw [depthMembers_cons, Nat.max_le] at hd
    rw [hf] at hk
    obtain ⟨hnew, hfind⟩ := find?_next hk
    cases hm with
    | member hname hv hrest =>
      refine readMembers_member_eq_ok.mpr ⟨x.key, hname, .inl ⟨x, ?_, ?_, s₁, ?_, ?_⟩⟩
      · rw [hf]
        exact hfind
      · exact Bool.eq_false_iff.mpr fun h => hnew (hp.known _ (List.contains_iff_mem.mp h))
      · exact hx room _ hv hd.1
      · refine ih (done ++ [x]) (x.key :: seen) _ ?_ (hp.given x) hrest hd.2
        rw [hf, List.append_assoc, List.singleton_append]
  | leftOut hx hr ih =>
    rename_i x fields ms s s'
    intro done seen members hf hp hm hd
    refine ih (done ++ [x]) seen members ?_ (hp.leftOut hx) hm hd
    rw [hf, List.append_assoc, List.singleton_append]

/-- **A record is read back** when its members fill its form. -/
theorem Form.reads {f : Form σ} {ms : List (String × Json)} {a : σ}
    (hk : (f.fields.map (·.key)).Nodup) (h : Fills f.fields ms f.start a) :
    Reads f.read a (.object ms) := by
  intro room t ht hd
  rw [depth_object] at hd
  cases ht with
  | object hm =>
    cases room with
    | zero => omega
    | succ room =>
      have hp : Progress ([] : List (Field σ)) [] := ⟨nofun, nofun⟩
      exact h.readMembers hk [] [] _ rfl hp hm (Nat.le_of_succ_le_succ hd)

end Json

end FluentBuilders
