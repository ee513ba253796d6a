/-
  Reading — what a success says about the tree, and about the value.

  Every reader goes through all it is given, so after a success there is no obstacle anywhere in the
  tree: not in the values that were taken, and not in those that were passed over.

  A record is what its form starts from with some of the fields put in, each at most once and in any
  order.  What the start has and every field keeps, the record therefore has.
-/
import FluentBuilders.Json.Reading
import FluentBuilders.Proofs.Json.Soundness
import FluentBuilders.Proofs.Outcome

namespace FluentBuilders.Json

variable {α : Type}

/-- A reader that succeeds only on values without an obstacle. -/
def Strict (read : Reader α) : Prop :=
  ∀ room t a, t.Consistent → read room t = .ok a → t.obstacle = none

/-! ## Failures -/

theorem failAt_ne_ok {k : Nat} {c : Cause} {a : α} : failAt k c ≠ .ok a := nofun

theorem within_eq_ok {s : Segment} {e : Except Failure α} {a : α} :
    within s e = .ok a ↔ e = .ok a := by
  cases e with
  | ok b => exact Iff.rfl
  | error f => exact ⟨nofun, nofun⟩

theorem get_eq_ok {l : Lexeme α} {a : α} : l.get = .ok a ↔ l.read = .ok a := by
  unfold Lexeme.get
  cases l.read with
  | ok b => constructor <;> (intro h; cases h; rfl)
  | error f => exact ⟨nofun, nofun⟩

theorem mismatch_ne_ok {expected : String} {t : Tree} {a : α} : mismatch expected t ≠ .ok a := by
  cases t with
  | number s l =>
    intro h
    obtain ⟨n, -, h⟩ := bind_eq_ok.mp h
    cases h
  | text s l =>
    intro h
    obtain ⟨n, -, h⟩ := bind_eq_ok.mp h
    cases h
  | _ => nofun

/-! ## Single values -/

theorem strict_readTextAs (expected : String) : Strict (readTextAs expected) := by
  intro room t a hc h
  unfold readTextAs at h
  split at h
  · exact hc a (get_eq_ok.mp h)
  · exact (mismatch_ne_ok h).elim

theorem strict_readText : Strict readText := strict_readTextAs _

theorem strict_readFlag : Strict readFlag := by
  intro room t a hc h
  unfold readFlag at h
  split at h
  · rfl
  · exact (mismatch_ne_ok h).elim

theorem strict_readWord32 : Strict readWord32 := by
  intro room t a hc h
  unfold readWord32 at h
  split at h
  · obtain ⟨n, hn, -⟩ := bind_eq_ok.mp h
    exact hc n (get_eq_ok.mp hn)
  · exact (mismatch_ne_ok h).elim

theorem strict_readUnit : Strict readUnit := by
  intro room t a hc h
  unfold readUnit at h
  split at h
  · rfl
  · exact (mismatch_ne_ok h).elim

theorem strict_readOption {read : Reader α} (hr : Strict read) : Strict (readOption read) := by
  intro room t a hc h
  unfold readOption at h
  split at h
  · rfl
  · obtain ⟨b, hb, -⟩ := map_eq_ok.mp h
    exact hr room t b hc hb

/-! ## Lists -/

/-- A list of strictly read items was looked at to its end. -/
theorem obstacle_of_read {read : Tree → Except Failure α}
    (hr : ∀ t a, t.Consistent → read t = .ok a → t.obstacle = none) :
    ∀ (items : Items) (i : Nat) (as : List α), items.Consistent → items.read read i = .ok as →
      items.obstacle = none
  | .close _, _, _, _, _ => rfl
  | .item v rest, i, as, hc, h => by
    obtain ⟨a, ha, h⟩ := bind_eq_ok.mp h
    obtain ⟨bs, hbs, -⟩ := bind_eq_ok.mp h
    show (v.obstacle <|> rest.obstacle) = none
    rw [hr v a hc.1 (within_eq_ok.mp ha)]
    exact obstacle_of_read hr rest (i + 1) bs hc.2 hbs

theorem strict_readList {read : Reader α} (hr : Strict read) : Strict (readList read) := by
  intro room t a hc h
  unfold readList at h
  split at h
  · exact (failAt_ne_ok h).elim
  · rename_i room s items
    exact obstacle_of_read (hr room) items 0 a hc h
  · exact (mismatch_ne_ok h).elim

/-! ## Choices -/

theorem strict_readChoice (variants : List (String × α)) : Strict (readChoice variants) := by
  intro room t a hc h
  unfold readChoice at h
  split at h
  · exact (failAt_ne_ok h).elim
  · rename_i s l
    obtain ⟨name, hn, -⟩ := bind_eq_ok.mp h
    exact hc name (get_eq_ok.mp hn)
  · exact (failAt_ne_ok h).elim
  · rename_i room s members
    cases members with
    | member key colon v next rest =>
      obtain ⟨name, hn, h⟩ := bind_eq_ok.mp h
      obtain ⟨b, -, h⟩ := bind_eq_ok.mp h
      obtain ⟨u, hu, h⟩ := bind_eq_ok.mp h
      cases rest with
      | close k =>
        show (key.skip <|> v.obstacle <|> none) = none
        rw [hc.1 name (get_eq_ok.mp hn), strict_readUnit room v u hc.2.1 (within_eq_ok.mp hu)]
        rfl
      | _ => cases h
    | noColon key after closed f =>
      obtain ⟨b, -, h⟩ := bind_eq_ok.mp h
      cases h
    | _ => cases h
  · exact (failAt_ne_ok h).elim

/-! ## Records -/

variable {σ : Type} {f : Form σ} {room : Nat}

/-- What reading one member takes: its key is a string, and its value is read into the field with
    that key, which was not given before, or passed over when no field has it. -/
theorem readMembers_member_eq_ok {seen : List String} {s s' : σ} {key : Lexeme String}
    {colon next : Nat} {v : Tree} {rest : Members} :
    f.readMembers room seen s (.member key colon v next rest) = .ok s' ↔
      ∃ name, key.read = .ok name ∧
        ((∃ x, f.fields.find? (·.key == name) = some x ∧ seen.contains name = false ∧
            ∃ s₁, x.read room v s = .ok s₁ ∧
              f.readMembers room (name :: seen) s₁ rest = .ok s') ∨
          (f.fields.find? (·.key == name) = none ∧ v.obstacle = none ∧
            f.readMembers room seen s rest = .ok s')) := by
  rw [Form.readMembers, bind_eq_ok]
  refine exists_congr fun name => ?_
  rw [within_eq_ok, get_eq_ok]
  refine and_congr_right fun _ => ?_
  cases hx : f.fields.find? (·.key == name) with
  | some x =>
    cases hs : seen.contains name with
    | true => simp [failAt]
    | false => simp [bind_eq_ok, within_eq_ok]
  | none =>
    cases v.obstacle with
    | some fault => simp [within]
    | none => simp

/-- A field whose reader succeeds only on values without an obstacle. -/
def Field.Strict (x : Field σ) : Prop :=
  ∀ room t s s', t.Consistent → x.read room t s = .ok s' → t.obstacle = none

theorem Field.Strict.of {read : Reader α} (hr : Json.Strict read) {key : String} {required : Bool}
    {put : σ → α → σ} : (Field.of key required read put).Strict := by
  intro room t s s' hc h
  obtain ⟨a, ha, -⟩ := map_eq_ok.mp h
  exact hr room t a hc ha

/-- An object with strict fields was looked at to its end. -/
theorem obstacle_of_readMembers (hf : ∀ x ∈ f.fields, x.Strict) :
    ∀ (members : Members) (seen : List String) (s s' : σ), members.Consistent →
      f.readMembers room seen s members = .ok s' → members.obstacle = none
  | .close _, _, _, _, _, _ => rfl
  | .member key colon v next rest, seen, s, s', hc, h => by
    obtain ⟨name, hn, h⟩ := readMembers_member_eq_ok.mp h
    show (key.skip <|> v.obstacle <|> rest.obstacle) = none
    rw [hc.1 name hn]
    rcases h with ⟨x, hx, -, s₁, hv, hr⟩ | ⟨-, hv, hr⟩
    · rw [hf x (List.mem_of_find?_eq_some hx) room v s s₁ hc.2.1 hv]
      exact obstacle_of_readMembers hf rest _ s₁ s' hc.2.2 hr
    · rw [hv]
      exact obstacle_of_readMembers hf rest seen s s' hc.2.2 hr
  | .noColon key after closed fault, seen, s, s', _, h => by
    obtain ⟨name, -, h⟩ := bind_eq_ok.mp h
    split at h <;> cases h

/-- So was a list that gives the fields in order. -/
theorem obstacle_of_readItems :
    ∀ (fields : List (Field σ)), (∀ x ∈ fields, x.Strict) → ∀ (items : Items) (i : Nat) (s s' : σ),
      items.Consistent → f.readItems room fields i s items = .ok s' → items.obstacle = none
  | [], _, items, i, s, s', hc, h => by
    cases items with
    | close k => rfl
    | _ => cases h
  | x :: fields, hf, items, i, s, s', hc, h => by
    cases items with
    | close k => rfl
    | item v rest =>
      obtain ⟨s₁, hv, h⟩ := bind_eq_ok.mp h
      show (v.obstacle <|> rest.obstacle) = none
      rw [hf x List.mem_cons_self room v s s₁ hc.1 (within_eq_ok.mp hv)]
      exact obstacle_of_readItems fields (fun y hy => hf y (List.mem_cons_of_mem _ hy)) rest
        (i + 1) s₁ s' hc.2 h
    | _ => cases h

/-- **A record is read strictly** when each of its fields is. -/
theorem Form.strict (hf : ∀ x ∈ f.fields, x.Strict) : Json.Strict f.read := by
  intro room t s hc h
  unfold Form.read at h
  split at h
  · cases h
  · cases h
  · exact obstacle_of_readItems f.fields hf _ 0 _ s hc h
  · exact obstacle_of_readMembers hf _ [] _ s hc h
  · exact (mismatch_ne_ok h).elim

/-! ## What the fields keep -/

variable {P : σ → Prop}

/-- What every field keeps is kept by the run over the members. -/
theorem keeps_readMembers
    (hf : ∀ x ∈ f.fields, ∀ t s s', P s → x.read room t s = .ok s' → P s') :
    ∀ (members : Members) (seen : List String) (s s' : σ), P s →
      f.readMembers room seen s members = .ok s' → P s'
  | .close k, seen, s, s', hs, h => by
    rw [Form.readMembers] at h
    split at h
    · cases h
    · cases h
      exact hs
  | .member key colon v next rest, seen, s, s', hs, h => by
    obtain ⟨name, -, h⟩ := readMembers_member_eq_ok.mp h
    rcases h with ⟨x, hx, -, s₁, hv, hr⟩ | ⟨-, -, hr⟩
    · exact keeps_readMembers hf rest _ s₁ s'
        (hf x (List.mem_of_find?_eq_some hx) v s s₁ hs hv) hr
    · exact keeps_readMembers hf rest seen s s' hs hr
  | .noColon key after closed fault, seen, s, s', _, h => by
    obtain ⟨name, -, h⟩ := bind_eq_ok.mp h
    split at h <;> cases h

/-- What every field keeps is kept by the run over the items. -/
theorem keeps_readItems :
    ∀ (fields : List (Field σ)),
      (∀ x ∈ fields, ∀ t s s', P s → x.read room t s = .ok s' → P s') →
      ∀ (items : Items) (i : Nat) (s s' : σ), P s →
        f.readItems room fields i s items = .ok s' → P s'
  | [], _, items, i, s, s', hs, h => by
    cases items with
    | close k =>
      cases h
      exact hs
    | _ => cases h
  | x :: fields, hf, items, i, s, s', hs, h => by
    have hf' := fun y hy => hf y (List.mem_cons_of_mem x hy)
    cases items with
    | close k =>
      rw [Form.readItems] at h
      split at h
      · cases h
      · exact keeps_readItems fields hf' _ _ s s' hs h
    | item v rest =>
      obtain ⟨s₁, hv, h⟩ := bind_eq_ok.mp h
      exact keeps_readItems fields hf' rest _ s₁ s'
        (hf x List.mem_cons_self v s s₁ hs (within_eq_ok.mp hv)) h
    | _ => cases h

/-- **What the start has and every field keeps, a record that is read has.**  There is room for at
    least the record itself. -/
theorem Form.keeps {t : Tree} {s : σ} (h : f.read room t = .ok s)
    (hf : ∀ r, room = r + 1 → P f.start ∧
      ∀ x ∈ f.fields, ∀ t s s', P s → x.read r t s = .ok s' → P s') : P s := by
  unfold Form.read at h
  split at h
  · cases h
  · cases h
  · obtain ⟨hs, hf⟩ := hf _ rfl
    exact keeps_readItems f.fields hf _ 0 _ s hs h
  · obtain ⟨hs, hf⟩ := hf _ rfl
    exact keeps_readMembers hf _ [] _ s hs h
  · exact (mismatch_ne_ok h).elim

end FluentBuilders.Json
