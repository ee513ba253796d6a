/-
  Outcomes — chains of steps that may fail, read backwards from their result.

  A chain that ended well went through every one of its steps; these lemmas give the steps back
  one by one, so that no proof has to open a chain by itself.
-/
import Mathlib.Data.List.Forall2

namespace FluentBuilders

variable {ε α β : Type}

/-- A chain gives a value if both its parts do. -/
theorem bind_eq_ok {x : Except ε α} {f : α → Except ε β} {b : β} :
    (x >>= f) = .ok b ↔ ∃ a, x = .ok a ∧ f a = .ok b := by
  cases x with
  | error e =>
    constructor
    · intro h
      cases h
    · rintro ⟨_, h, -⟩
      cases h
  | ok a =>
    constructor
    · intro h
      exact ⟨a, rfl, h⟩
    · rintro ⟨_, h, h'⟩
      cases h
      exact h'

/-- A chain fails where its first part does, or the second one on what the first gives. -/
theorem bind_eq_error {x : Except ε α} {f : α → Except ε β} {e : ε} :
    (x >>= f) = .error e ↔ x = .error e ∨ ∃ a, x = .ok a ∧ f a = .error e := by
  cases x with
  | error e' =>
    constructor
    · intro h
      cases h
      exact .inl rfl
    · rintro (h | ⟨_, h, -⟩)
      · cases h
        rfl
      · cases h
  | ok a =>
    constructor
    · intro h
      exact .inr ⟨a, rfl, h⟩
    · rintro (h | ⟨_, h, h'⟩)
      · cases h
      · cases h
        exact h'

theorem toOption_eq_some {x : Except ε α} {a : α} : x.toOption = some a ↔ x = .ok a := by
  cases x with
  | error e =>
    constructor
    · intro h
      cases h
    · intro h
      cases h
  | ok b =>
    constructor
    · intro h
      exact congrArg Except.ok (Option.some.inj h)
    · intro h
      exact congrArg some (Except.ok.inj h)

theorem map_eq_ok {x : Except ε α} {f : α → β} {b : β} :
    f <$> x = .ok b ↔ ∃ a, x = .ok a ∧ f a = b := by
  cases x with
  | error e =>
    constructor
    · intro h
      cases h
    · rintro ⟨_, h, -⟩
      cases h
  | ok a =>
    constructor
    · intro h
      exact ⟨a, rfl, Except.ok.inj h⟩
    · rintro ⟨_, h, h'⟩
      cases h
      exact congrArg Except.ok h'

/-- A list of steps ends well when each of them does, and then with their results in order. -/
theorem mapM_eq_ok {f : α → Except ε β} : ∀ {l : List α} {l' : List β},
    l.mapM f = .ok l' ↔ List.Forall₂ (fun a b => f a = .ok b) l l'
  | [], l' => by
    rw [List.mapM_nil, List.forall₂_nil_left_iff]
    constructor
    · intro h
      exact (Except.ok.inj h).symm
    · intro h
      rw [h]
      rfl
  | a :: l, l' => by
    rw [List.mapM_cons, bind_eq_ok]
    constructor
    · rintro ⟨b, hb, h⟩
      obtain ⟨bs, hbs, h⟩ := bind_eq_ok.mp h
      cases h
      exact .cons hb (mapM_eq_ok.mp hbs)
    · intro h
      cases h with
      | cons hb hbs => exact ⟨_, hb, bind_eq_ok.mpr ⟨_, mapM_eq_ok.mpr hbs, rfl⟩⟩

/-- A list of steps that fails does so at one of them. -/
theorem mapM_eq_error {f : α → Except ε β} {e : ε} : ∀ {l : List α},
    l.mapM f = .error e → ∃ a ∈ l, f a = .error e
  | [], h => by cases h
  | a :: l, h => by
    rw [List.mapM_cons] at h
    rcases bind_eq_error.mp h with h | ⟨b, -, h⟩
    · exact ⟨a, List.mem_cons_self, h⟩
    · rcases bind_eq_error.mp h with h | ⟨bs, -, h⟩
      · obtain ⟨a', ha, h'⟩ := mapM_eq_error h
        exact ⟨a', List.mem_cons_of_mem _ ha, h'⟩
      · cases h

/-! ## Failures -/

/-- Whatever an outcome fails with satisfies a predicate. -/
def FailsWith (P : ε → Prop) (x : Except ε α) : Prop := ∀ r, x = .error r → P r

section Failures

variable {P : ε → Prop} {x : Except ε α}

theorem failsWith_ok (a : α) : FailsWith P (.ok a : Except ε α) := by
  intro r h
  cases h

theorem failsWith_error {r : ε} (h : P r) : FailsWith P (.error r : Except ε α) := by
  intro r' h'
  cases h'
  exact h

/-- A chain fails with what its first step fails with, or a later one. -/
theorem failsWith_bind {f : α → Except ε β} (hx : FailsWith P x)
    (hf : ∀ a, x = .ok a → FailsWith P (f a)) : FailsWith P (x >>= f) := by
  intro r h
  rcases bind_eq_error.mp h with h | ⟨a, ha, h⟩
  · exact hx r h
  · exact hf a ha r h

theorem failsWith_map {f : α → β} (hx : FailsWith P x) : FailsWith P (f <$> x) := by
  intro r h
  cases x with
  | error r' =>
    cases h
    exact hx _ rfl
  | ok a => cases h

theorem failsWith_mapM {f : α → Except ε β} {l : List α} (hf : ∀ a ∈ l, FailsWith P (f a)) :
    FailsWith P (l.mapM f) := by
  intro r h
  obtain ⟨a, ha, h⟩ := mapM_eq_error h
  exact hf a ha r h

end Failures

/-! ## Results that are there -/

/-- A chain has a result when its first step has one and the others have one for it. -/
theorem isSome_bind {x : Option α} {f : α → Option β} :
    (x >>= f).isSome = true ↔ ∃ a, x = some a ∧ (f a).isSome = true := by
  cases x with
  | none =>
    constructor
    · intro h
      cases h
    · rintro ⟨_, h, -⟩
      cases h
  | some a =>
    constructor
    · intro h
      exact ⟨a, rfl, h⟩
    · rintro ⟨_, h, h'⟩
      cases h
      exact h'

/-- Steps that do not depend on one another have results each by itself. -/
theorem isSome_bind_of_iff {x : Option α} {f : α → Option β} {P : Prop}
    (h : ∀ a, (f a).isSome = true ↔ P) : (x >>= f).isSome = true ↔ x.isSome = true ∧ P := by
  rw [isSome_bind, Option.isSome_iff_exists]
  simp only [h, exists_and_right]

/-- The last step of a chain only puts together what there is. -/
theorem isSome_bind_some {x : Option α} {g : α → β} :
    (x >>= fun a => some (g a)).isSome = true ↔ x.isSome = true := by
  rw [isSome_bind_of_iff fun _ => iff_of_true rfl trivial, and_true]

theorem isSome_mapM {f : α → Option β} : ∀ {l : List α},
    (l.mapM f).isSome = true ↔ ∀ a ∈ l, (f a).isSome = true
  | [] => by simp
  | a :: l => by
    rw [List.mapM_cons, List.forall_mem_cons, ← isSome_mapM (l := l)]
    exact isSome_bind_of_iff fun _ => isSome_bind_some

/-- What a run over a list gives is made item by item. -/
theorem mapM_eq_some {f : α → Option β} : ∀ {l : List α} {l' : List β},
    l.mapM f = some l' → List.Forall₂ (fun a b => f a = some b) l l'
  | [], _, h => by
    cases h
    exact .nil
  | a :: l, _, h => by
    rw [List.mapM_cons] at h
    obtain ⟨b, hb, h⟩ := Option.bind_eq_some_iff.mp h
    obtain ⟨l', hl, h⟩ := Option.bind_eq_some_iff.mp h
    cases h
    exact .cons hb (mapM_eq_some hl)

/-! ## Lists in step -/

variable {R : α → β → Prop}

/-- Lists that are related item by item: each item on the left has one on the right. -/
theorem exists_right_of_mem : ∀ {l : List α} {l' : List β}, List.Forall₂ R l l' →
    ∀ {a}, a ∈ l → ∃ b ∈ l', R a b
  | _, _, .nil, _, h => absurd h List.not_mem_nil
  | _, _, .cons hab hl, _, h => by
    rcases List.mem_cons.mp h with rfl | h
    · exact ⟨_, List.mem_cons_self, hab⟩
    · obtain ⟨b, hb, hr⟩ := exists_right_of_mem hl h
      exact ⟨b, List.mem_cons_of_mem _ hb, hr⟩

theorem exists_left_of_mem {l : List α} {l' : List β} (h : List.Forall₂ R l l') {b : β}
    (hb : b ∈ l') : ∃ a ∈ l, R a b :=
  exists_right_of_mem h.flip hb

theorem map_eq_map_of_forall₂ {γ : Type} {f : α → γ} {g : β → γ} {l : List α} {l' : List β}
    (h : List.Forall₂ R l l') (hfg : ∀ a b, R a b → f a = g b) : l.map f = l'.map g := by
  have he : List.Forall₂ (· = ·) (l.map f) (l'.map g) :=
    List.forall₂_map_left_iff.mpr (List.forall₂_map_right_iff.mpr (h.imp hfg))
  rwa [List.forall₂_eq_eq_eq] at he

theorem map_zipWith_of_forall₂ {γ δ : Type} {f : α → β → γ} {g : γ → δ} {g' : α → δ}
    {l : List α} {l' : List β} (h : List.Forall₂ R l l') (hfg : ∀ a b, R a b → g (f a b) = g' a) :
    (List.zipWith f l l').map g = l.map g' := by
  induction h with
  | nil => rfl
  | cons hab _ ih => rw [List.zipWith_cons_cons, List.map_cons, List.map_cons, hfg _ _ hab, ih]

theorem exists_of_mem_zipWith {γ : Type} {f : α → β → γ} {l : List α} {l' : List β} {c : γ}
    (h : c ∈ List.zipWith f l l') : ∃ a b, (a, b) ∈ l.zip l' ∧ f a b = c := by
  rw [← List.map_uncurry_zip_eq_zipWith] at h
  obtain ⟨⟨a, b⟩, hab, hc⟩ := List.mem_map.mp h
  exact ⟨a, b, hab, hc⟩

end FluentBuilders
