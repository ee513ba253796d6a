/-
  Containers — the containers of a plan, and where its code names them.

  A plan holds a container for each of its collections, in a storage or in a scope type.  Each of
  them stands in the code of the plan as what a collector of the support library is applied to
  (`collector_infix`), so that the path of the support library is written in front of it.
-/
import FluentBuilders.Builder.Emission
import FluentBuilders.Proofs.Builder.Drafting
import FluentBuilders.Proofs.Code.Respelling

namespace FluentBuilders

open Code

variable {S : Plan} {support : Path} {t : TypeRef} {m : Module}

/-- The containers of a plan. -/
def Plan.containers (S : Plan) : List TypeRef :=
  S.storages.map (·.container) ++ S.scopes.map (·.container)

/-- The containers of a plan are those of the collections among its parameters. -/
theorem exists_collection {c : Class} {kc : ClassifiedConstructor}
    (h : t ∈ (Plan.drawn c kc).containers) :
    ∃ q ∈ kc.parameters, ∃ g, q.category = .collection g ∧ t = g.type := by
  rcases List.mem_append.mp h with h | h
  · obtain ⟨s, hs, rfl⟩ := List.mem_map.mp h
    obtain ⟨q, hq, hs⟩ := List.mem_flatMap.mp hs
    rw [Synthesis.storagesOf] at hs
    split at hs
    · rename_i g hg
      split at hs
      · cases List.mem_singleton.mp hs
        exact ⟨q, hq, g, hg, rfl⟩
      · exact absurd hs List.not_mem_nil
    · exact absurd hs List.not_mem_nil
  · obtain ⟨s, hs, rfl⟩ := List.mem_map.mp h
    obtain ⟨q, hq, hs⟩ := List.mem_flatMap.mp hs
    rw [Synthesis.scopesOf] at hs
    split at hs
    · rename_i g hg
      split at hs
      · exact absurd hs List.not_mem_nil
      · cases List.mem_singleton.mp hs
        exact ⟨q, hq, g, hg, rfl⟩
    · exact absurd hs List.not_mem_nil

/-! ## Tokens within tokens -/

theorem infix_flatMap {α β : Type} {f : α → List β} {a : α} {l : List α} (h : a ∈ l) :
    f a <:+: l.flatMap f := by
  obtain ⟨front, back, rfl⟩ := List.append_of_mem h
  rw [List.flatMap_append, List.flatMap_cons]
  exact ⟨front.flatMap f, back.flatMap f, by rw [List.append_assoc]⟩

/-- What is separated stands in the whole without a gap. -/
theorem infix_sepBy {c : Char} {last : Bool} {ts : List Token} :
    ∀ {tss : List (List Token)}, ts ∈ tss → ts <:+: Token.sepBy c last tss
  | [us], h => by
    rw [List.mem_singleton.mp h]
    exact (List.prefix_append _ _).isInfix
  | us :: vs :: r, h => by
    rw [Token.sepBy]
    rcases List.mem_cons.mp h with rfl | h
    · exact (List.prefix_append _ _).isInfix
    · exact (infix_sepBy h).trans ((List.suffix_cons _ _).trans (List.suffix_append _ _)).isInfix

/-- The type of a field stands in the tokens of its struct. -/
theorem infix_struct {scope : Scope} {name : Ident} {generics : List Generic}
    {fields : List (Ident × Ty)} {field : Ident × Ty} (h : field ∈ fields) :
    field.2.tokens <:+: (Item.struct scope name generics fields).tokens := by
  have hfield : field.2.tokens <:+: field.1.tokens ++ .mark ':' :: field.2.tokens :=
    ((List.suffix_cons _ _).trans (List.suffix_append _ _)).isInfix
  have hfields : (field.1.tokens ++ .mark ':' :: field.2.tokens)
      <:+: Token.sepBy ',' true (fields.map fun f => f.1.tokens ++ .mark ':' :: f.2.tokens) :=
    infix_sepBy (List.mem_map.mpr ⟨field, h, rfl⟩)
  have hstruct : (Item.struct scope name generics fields).tokens
      = (scope.tokens ++ .word "struct" :: name.tokens ++ genericsTokens generics)
        ++ Token.between '\x7b' '\x7d'
          (Token.sepBy ',' true (fields.map fun f => f.1.tokens ++ .mark ':' :: f.2.tokens)) := rfl
  rw [hstruct, Token.between]
  refine (hfield.trans hfields).trans (List.IsInfix.trans ?_ (List.suffix_append _ _).isInfix)
  exact (List.prefix_append _ _).isInfix.trans (List.suffix_cons _ _).isInfix

/-- What an item of a module is written as stands in what the module is written as. -/
theorem infix_module {item : Item} (h : item ∈ m.items) : item.tokens <:+: m.tokens :=
  (infix_flatMap h).trans (List.suffix_append _ _).isInfix

/-- What an option is applied to stands in its tokens. -/
theorem infix_optionOf (t : Ty) : t.tokens <:+: (Ty.path (.optionOf t)).tokens := by
  have hp : (Path.root ["core", "option"]).segments ≠ [] := List.cons_ne_nil _ _
  have h := tokens_of_push hp "Option" t
  show t.tokens <:+: (((Path.root ["core", "option"]).push (.word "Option")).of [t]).tokens
  rw [h, Token.between]
  exact ⟨(Path.root ["core", "option"]).tokens ++ Token.marks "::" ++ [.word "Option", .mark '<'],
    [.mark '>'], by simp⟩

/-! ## The code of a plan -/

/-- The parts of a module. -/
theorem items_of_module? (h : S.module? support = some m) : ∃ body scopes,
    S.body? support = some body ∧ S.scopes? support = some scopes ∧
      body ⊆ m.items ∧ scopes.flatten ⊆ m.items := by
  obtain ⟨imports, -, h⟩ := Option.bind_eq_some_iff.mp h
  obtain ⟨body, hbody, h⟩ := Option.bind_eq_some_iff.mp h
  obtain ⟨scopes, hscopes, h⟩ := Option.bind_eq_some_iff.mp h
  obtain ⟨entry, -, h⟩ := Option.bind_eq_some_iff.mp h
  cases h
  refine ⟨body, scopes, hbody, hscopes, fun i hi => ?_, fun i hi => ?_⟩
  · exact List.mem_append_left _ (List.mem_append_left _ (List.mem_append_right _ hi))
  · exact List.mem_append_left _ (List.mem_append_right _ hi)

/-- The collector of a storage is written in the module. -/
theorem storage_infix {s : Storage} (h : S.module? support = some m) (hs : s ∈ S.storages) :
    ∃ ty, Ty.ofRef? s.container = some ty ∧ (collectorTy support ty).tokens <:+: m.tokens := by
  obtain ⟨body, -, hbody, -, hsub, -⟩ := items_of_module? h
  obtain ⟨struct, hstruct, hbody⟩ := Option.bind_eq_some_iff.mp hbody
  obtain ⟨defaults, -, hbody⟩ := Option.bind_eq_some_iff.mp hbody
  obtain ⟨methods, -, hbody⟩ := Option.bind_eq_some_iff.mp hbody
  cases hbody
  obtain ⟨name, -, hstruct⟩ := Option.bind_eq_some_iff.mp hstruct
  obtain ⟨generics, -, hstruct⟩ := Option.bind_eq_some_iff.mp hstruct
  obtain ⟨properties, -, hstruct⟩ := Option.bind_eq_some_iff.mp hstruct
  obtain ⟨storages, hstorages, hstruct⟩ := Option.bind_eq_some_iff.mp hstruct
  obtain ⟨phantom, -, hstruct⟩ := Option.bind_eq_some_iff.mp hstruct
  cases hstruct
  obtain ⟨field, hfield, hf⟩ := exists_right_of_mem (mapM_eq_some hstorages) hs
  obtain ⟨storage, -, hf⟩ := Option.bind_eq_some_iff.mp hf
  obtain ⟨ty, hty, hf⟩ := Option.bind_eq_some_iff.mp hf
  cases hf
  have hmem := List.mem_append_left phantom (List.mem_append_right properties hfield)
  exact ⟨ty, hty, ((infix_optionOf _).trans (infix_struct hmem)).trans
    (infix_module (hsub List.mem_cons_self))⟩

/-- The collector of a scope is written in the module. -/
theorem scope_infix {s : ScopeType} (h : S.module? support = some m) (hs : s ∈ S.scopes) :
    ∃ ty, Ty.ofRef? s.container = some ty ∧ (collectorTy support ty).tokens <:+: m.tokens := by
  obtain ⟨-, scopes, -, hscopes, -, hsub⟩ := items_of_module? h
  obtain ⟨items, hitems, hi⟩ := exists_right_of_mem (mapM_eq_some hscopes) hs
  obtain ⟨name, -, hi⟩ := Option.bind_eq_some_iff.mp hi
  obtain ⟨generics, -, hi⟩ := Option.bind_eq_some_iff.mp hi
  obtain ⟨target, -, hi⟩ := Option.bind_eq_some_iff.mp hi
  obtain ⟨ty, hty, hi⟩ := Option.bind_eq_some_iff.mp hi
  obtain ⟨element, -, hi⟩ := Option.bind_eq_some_iff.mp hi
  cases hi
  have hmem : _ ∈ m.items := hsub (List.mem_flatten.mpr ⟨_, hitems, List.mem_cons_self⟩)
  exact ⟨ty, hty, (infix_struct (List.mem_singleton.mpr rfl)).trans (infix_module hmem)⟩

/-- **Where the code names a container**: a collector of the support library is applied to it. -/
theorem collector_infix (h : S.module? support = some m) (ht : t ∈ S.containers) :
    ∃ ty, Ty.ofRef? t = some ty ∧ (collectorTy support ty).tokens <:+: m.tokens := by
  rcases List.mem_append.mp ht with ht | ht
  · obtain ⟨s, hs, rfl⟩ := List.mem_map.mp ht
    exact storage_infix h hs
  · obtain ⟨s, hs, rfl⟩ := List.mem_map.mp ht
    exact scope_infix h hs

end FluentBuilders
