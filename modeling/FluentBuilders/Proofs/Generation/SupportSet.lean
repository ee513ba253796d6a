/-
  The support set — how the default container of sets is written beside the support library itself.

  The container comes out of the catalogue, where it stands at a text: the path of the support
  library, written down without blanks, with a segment behind it.  Everything else of the support
  library is written with the path as it was read.  The first way needs a path of words, or there is
  no code at all, and it escapes two words that a path may hold as they are
  (`support_set_printed`).
-/
import FluentBuilders.Proofs.Builder.Containers
import FluentBuilders.Proofs.Generation.Spelling

namespace FluentBuilders

open Code

/-! ## The containers of planned classes -/

namespace Batch

open Descriptor (ClassEntry)

variable {k : Catalogue} {e : ClassEntry} {S : Plan} {t : TypeRef}

/-- A container of a planned class is applied to one element, whose names are well formed. -/
theorem container_of_process (h : (process k e).2 = .ok S) (ht : t ∈ S.containers) :
    ∃ element, t = { name := t.name, arguments := [element] } ∧ element.badName? = none := by
  obtain ⟨f, c, kc, hf, -, hc, -, hkc, hS⟩ := process_synthesized h
  obtain ⟨-, -, rfl⟩ := Plan.synthesize_eq_ok.mp hS
  obtain ⟨i, hi, -⟩ := Class.choose_eq_ok hc
  obtain ⟨q, hq, g, hg, rfl⟩ := exists_collection ht
  obtain ⟨p, hp, hpq⟩ := exists_left_of_mem (constructor_classify_eq_ok hkc).2 hq
  have hcategory := (classify_eq_ok_iff.mp hpq).2.2
  rw [hg] at hcategory
  have hgathers := (category_collection_iff.mp hcategory).2.2
  obtain ⟨rest, ha⟩ := List.head?_eq_some_iff.mp hgathers.element
  have hbad := (Class.checked_of_read hf).types c (List.mem_of_getElem? hi) p hp
  refine ⟨g.element, ?_, badName?_of_argument hbad ha⟩
  rw [Collection.type, hgathers.container]

end Batch

/-! ## Both ways -/

namespace Generation

open Batch

variable {r : Request} {path : String} {S : Plan} {t : TypeRef}

/-- The tokens of something of the support library that is applied to a type. -/
def supportTokens (support : Path) (name : String) (t : Ty) : List Token :=
  support.tokens ++ Token.marks "::" ++ .word name :: Token.between '<' '>' t.tokens

theorem ofRef?_applied {name : String} {element : TypeRef} {e : Ty}
    (he : Ty.ofRef? element = some e) :
    Ty.ofRef? { name, arguments := [element] }
      = (Path.ofName? name).map fun q => .path (q.of [e]) := by
  obtain ⟨p, hp, rfl⟩ := Option.map_eq_some_iff.mp he
  have hrefs : Ty.ofRefs? [element] = some [.path p] := by
    rw [Ty.ofRefs?, hp]
    rfl
  rw [Ty.ofRef?, Path.ofRef?, hrefs]
  cases Path.ofName? name <;> rfl

/-- **How the set of the support library is written.**  Where a container of a plan is that set, it
    is applied to one element.  It has a tree exactly if the path of the support library is bare,
    and then the code of the plan holds it behind the path as it was read, in a collector; otherwise
    there is no code.  Both ways of writing the path agree exactly if it is verbatim. -/
theorem support_set_printed (hpath : Path.ofText path = .ok r.support)
    (hS : S ∈ r.batch.plans) (ht : t ∈ S.containers)
    (hname : t.name = Catalogue.supportSet r.support.compact) :
    (∃ element e, t.arguments = [element] ∧ Ty.ofRef? element = some e ∧
      ((Ty.ofRef? t).map Ty.tokens = some (supportTokens r.support "IndexSet" e) ↔
        r.support.Verbatim)) ∧
    ((Ty.ofRef? t).isSome = true ↔ r.support.Bare) ∧
    (¬ r.support.Bare → S.module? r.support = none) ∧
    ∀ m, S.module? r.support = some m → ∃ ty, Ty.ofRef? t = some ty ∧
      supportTokens r.support "Collector" ty <:+: m.tokens := by
  obtain ⟨entry, hA⟩ := mem_plans_iff.mp hS
  obtain ⟨element, hshape, hbad⟩ := container_of_process (process_of_accepted hA) ht
  obtain ⟨e, he⟩ := Option.isSome_iff_exists.mp (isSome_tyOfRef?.mpr (spelled_of_badName? hbad))
  have hprinted : Ty.ofRef? t = (Path.ofName? (Catalogue.supportSet r.support.compact)).map
      fun q => .path (q.of [e]) := by
    rw [hshape, hname, ofRef?_applied he]
  have hcode : ∀ m, S.module? r.support = some m → ∃ ty, Ty.ofRef? t = some ty ∧
      supportTokens r.support "Collector" ty <:+: m.tokens := by
    intro m hm
    obtain ⟨ty, hty, hinfix⟩ := collector_infix hm ht
    refine ⟨ty, hty, ?_⟩
    have htokens := tokens_of_push (segments_ne_nil hpath) "Collector" ty
    rw [supportTokens, ← htokens]
    exact hinfix
  have harguments : t.arguments = [element] := by rw [hshape]
  rcases ofName?_supportSet hpath with ⟨hbare, hnone⟩ | ⟨hbare, q, hq, hne, htokens⟩
  · rw [hnone] at hprinted
    have hmodule : S.module? r.support = none := by
      cases hm : S.module? r.support with
      | none => rfl
      | some m =>
        obtain ⟨ty, hty, -⟩ := hcode m hm
        cases hprinted.symm.trans hty
    refine ⟨⟨element, e, harguments, he, ?_⟩, ?_, fun _ => hmodule, hcode⟩
    · rw [hprinted]
      exact iff_of_false (fun h => by cases h) fun h => hbare h.bare
    · rw [hprinted]
      exact iff_of_false Bool.false_ne_true hbare
  · rw [hq] at hprinted
    refine ⟨⟨element, e, harguments, he, ?_⟩, ?_, fun h => absurd hbare h, hcode⟩
    · rw [hprinted, ← htokens, supportTokens]
      show some ((q.push (.word "IndexSet")).of [e]).tokens = some _ ↔ _
      rw [tokens_of_push hne, Option.some.injEq, List.append_assoc, List.append_assoc,
        List.append_cancel_right_eq]
    · rw [hprinted]
      exact iff_of_true rfl hbare

/-- The support library of a shelf is given by a path of one word: what gathers its books is written
    the same in both ways. -/
theorem support_set_printed_shelf :
    ∃ S ∈ shelf.batch.plans, ∃ t ∈ S.containers, ∃ element e,
      t.arguments = [element] ∧ Ty.ofRef? element = some e ∧
      (Ty.ofRef? t).map Ty.tokens = some (supportTokens shelf.support "IndexSet" e) := by
  have houtcome : ((finalPass shelf.descriptor shelf.selection
      shelf.support.compact).outcomes[0]?.bind (·.toOption)).any (fun S =>
        S.containers.any (·.name == Catalogue.supportSet shelf.support.compact)) = true := by
    decide +kernel
  obtain ⟨S, hS, hcontainer⟩ := exists_accepted 0 _ rfl houtcome
  obtain ⟨t, ht, hname⟩ := List.any_eq_true.mp hcontainer
  have hplan : S ∈ shelf.batch.plans := mem_plans_iff.mpr ⟨_, hS⟩
  have hverbatim : shelf.support.Verbatim := by
    intro s hs
    cases List.mem_singleton.mp hs
    exact ⟨"autodsl_support", rfl, by decide, by decide⟩
  obtain ⟨⟨element, e, harguments, he, hprinted⟩, -⟩ :=
    support_set_printed read_shelf hplan ht (beq_iff_eq.mp hname)
  exact ⟨S, hplan, t, ht, element, e, harguments, he, hprinted.mpr hverbatim⟩

/-- **A raw word in the path of the support library.**  The path is accepted and the class is
    planned, but what gathers its books cannot be written, so there is no code for it. -/
theorem raw_support_unprinted :
    ∃ support, Path.ofText "r#type" = .ok support ∧
      ∃ S ∈ ({ shelf with support } : Request).batch.plans, ∃ t ∈ S.containers,
        t.name = Catalogue.supportSet support.compact ∧ Ty.ofRef? t = none ∧
        S.module? support = none := by
  have hread : (Path.ofText "r#type").toOption.map Path.compact = some "r#type" := by
    decide +kernel
  obtain ⟨support, hsupport, hcompact⟩ := Option.map_eq_some_iff.mp hread
  have houtcome : ((finalPass shelf.descriptor shelf.selection "r#type").outcomes[0]?.bind
      (·.toOption)).any (fun S =>
        S.containers.any (·.name == Catalogue.supportSet "r#type")) = true := by
    decide +kernel
  rw [← hcompact] at houtcome
  obtain ⟨S, hS, hcontainer⟩ := exists_accepted 0 _ rfl houtcome
  obtain ⟨t, ht, hname⟩ := List.any_eq_true.mp hcontainer
  have hnone : Ty.ofRef? t = none := by
    rw [← Option.not_isSome_iff_eq_none, isSome_tyOfRef?, spelled_words, beq_iff_eq.mp hname,
      hcompact]
    -- the first piece of the name is the raw word with its mark
    rintro ⟨hwords, -⟩
    have hword : Text.isWord "r#type".toList = true := hwords _ (by decide)
    revert hword
    decide
  refine ⟨support, toOption_eq_some.mp hsupport, S, mem_plans_iff.mpr ⟨_, hS⟩, t, ht,
    beq_iff_eq.mp hname, hnone, ?_⟩
  cases hm : S.module? support with
  | none => rfl
  | some m =>
    obtain ⟨ty, hty, -⟩ := collector_infix hm ht
    cases hnone.symm.trans hty

end Generation

end FluentBuilders
