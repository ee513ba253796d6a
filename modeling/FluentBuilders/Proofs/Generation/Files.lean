/-
  Files — why no file that is generated takes the place of another.

  Accepted plans hold different module names (`HoldsApart`), and a file is named for its module.
  That this is enough even where a file system does not tell upper case from lower case has to do
  with how module names are made: snake case leaves nothing that lowering could change, so names
  that differ stay different.  The index is no module of a builder because a module name ends in
  `builder`.

  What the index makes available is read off its code tree (`reexports`): for each builder, in
  order, the builder and its entry function.
-/
import FluentBuilders.Generation.Output
import FluentBuilders.Proofs.Batch.Names

namespace FluentBuilders.Generation

open Batch Code

variable {plans : List Plan} {S : Plan} {d : Descriptor} {s : Selection} {support : String}

/-! ## Names of files -/

/-- The name of the file of a builder. -/
def fileName (S : Plan) : String := S.module ++ ".rs"

/-- A text in lower case, character by character.  Texts that differ in case only have one. -/
def folded (t : String) : String := String.ofList (t.toList.flatMap Text.lowered)

theorem folded_eq_self {t : String} (h : ∀ c ∈ t.toList, Text.lowered c = [c]) : folded t = t := by
  have hflat : t.toList.flatMap Text.lowered = t.toList.flatMap fun c => [c] :=
    List.flatMap_congr h
  rw [folded, hflat, List.flatMap_singleton', String.ofList_toList]

/-- What is known of the names of a plan that a batch ends with. -/
theorem names_of_mem_plans (h : S ∈ (synthesize d s support).plans) :
    ∃ n, Name.isIdentifier n = true ∧ S.builder = Name.builder n ∧
      S.module = Name.moduleOf S.builder := by
  obtain ⟨e, he⟩ := mem_plans_iff.mp h
  have hp := process_of_accepted he
  obtain ⟨f, -, -, hf, -⟩ := process_synthesized hp
  obtain ⟨hbuilder, -, -, hmodule⟩ := process_names hp
  refine ⟨e.name, ?_, hbuilder, hmodule⟩
  rw [← (read_eq_ok hf).1]
  exact (Class.checked_of_read hf).name

/-- Lowering changes nothing in the name of a builder's file. -/
theorem folded_fileName (h : S ∈ (synthesize d s support).plans) :
    folded (fileName S) = fileName S := by
  obtain ⟨n, hn, hbuilder, hmodule⟩ := names_of_mem_plans h
  have hparts := Name.isPart_of_isPlain
    (Name.isIdentifier_iff.mp (Name.isIdentifier_builder hn)).1
  apply folded_eq_self
  intro c hc
  rw [fileName, String.toList_append] at hc
  rcases List.mem_append.mp hc with hc | hc
  · rw [hmodule, hbuilder, Name.moduleOf, Text.snakeCase, String.toList_ofList] at hc
    exact (Name.isLow_snakeFrom hparts c hc).2
  · have hending : ".rs".toList.all (fun c => Text.lowered c == [c]) = true := by decide
    exact beq_iff_eq.mp (List.all_eq_true.mp hending c hc)

/-- The file of a builder is not the index. -/
theorem fileName_ne_indexName (h : S ∈ (synthesize d s support).plans) :
    fileName S ≠ indexName := by
  obtain ⟨n, -, hbuilder, hmodule⟩ := names_of_mem_plans h
  intro he
  have hlist := congrArg String.toList he
  rw [fileName, String.toList_append] at hlist
  have hending : S.module.toList ++ ".rs".toList = "mod".toList ++ ".rs".toList := hlist
  have hmod := List.append_cancel_right hending
  have hsuffix := (Name.suffix_moduleOf n).length_le
  rw [← hbuilder, ← hmodule, hmod] at hsuffix
  exact absurd hsuffix (by decide)

/-- Files of different modules have different names. -/
theorem nodup_fileName (h : (plans.map (·.module)).Nodup) : (plans.map fileName).Nodup := by
  have hinjective : Function.Injective fun t : String => t ++ ".rs" := by
    intro t u ht
    have hlist := congrArg String.toList ht
    rw [String.toList_append, String.toList_append] at hlist
    exact String.toList_injective (List.append_cancel_right hlist)
  have hmap := h.map hinjective
  rw [List.map_map] at hmap
  exact hmap

/-! ## The index -/

/-- The names that a module makes available from others, module by module. -/
def reexports (m : Module) : List (List String) :=
  m.items.filterMap fun
    | .reexport _ _ names => some (names.map (·.word))
    | _ => none

theorem word_of_ofName? {n : String} {i : Ident} (h : Ident.ofName? n = some i) : i.word = n := by
  rw [Ident.ofName?] at h
  split at h
  · cases h
    rfl
  · cases h

theorem reexports_declaration {items : List Item} (h : S.declaration? = some items) :
    reexports { items } = [[S.builder, S.entry.name]] := by
  obtain ⟨module, -, h⟩ := Option.bind_eq_some_iff.mp h
  obtain ⟨builder, hb, h⟩ := Option.bind_eq_some_iff.mp h
  obtain ⟨entry, he, h⟩ := Option.bind_eq_some_iff.mp h
  cases h
  rw [← word_of_ofName? hb, ← word_of_ofName? he]
  rfl

/-- An index passes on the builder and the entry function of each plan, in order. -/
theorem reexports_declarations : ∀ {plans : List Plan} {ds : List (List Item)},
    plans.mapM (·.declaration?) = some ds →
      reexports { items := ds.flatten } = plans.map fun S => [S.builder, S.entry.name]
  | [], _, h => by
    rw [List.mapM_nil] at h
    cases h
    rfl
  | S :: plans, _, h => by
    rw [List.mapM_cons] at h
    obtain ⟨items, hitems, h⟩ := Option.bind_eq_some_iff.mp h
    obtain ⟨rest, hrest, h⟩ := Option.bind_eq_some_iff.mp h
    cases h
    have happend : reexports { items := (items :: rest).flatten }
        = reexports { items } ++ reexports { items := rest.flatten } := List.filterMap_append
    rw [happend, reexports_declaration hitems, reexports_declarations hrest]
    rfl

/-- **What the index makes available**: each builder with its entry function, in order. -/
theorem reexports_index {m : Module} (h : indexModule? plans = some m) :
    reexports m = plans.map fun S => [S.builder, S.entry.name] := by
  obtain ⟨ds, hds, h⟩ := Option.bind_eq_some_iff.mp h
  cases h
  exact reexports_declarations hds

/-! ## All files -/

/-- A module is written if it is there and nothing in it is refused; its text stands below the
    header. -/
theorem writeModule_eq_ok {h : Header} {m : Option Module} {refused : Refusal → Failure}
    {text : String} (hw : writeModule h m refused = .ok text) :
    ∃ m', m = some m' ∧ m'.refusal? = none ∧ text = h.text ++ m'.text := by
  unfold writeModule at hw
  split at hw
  · cases hw
  · rename_i m'
    split at hw
    · cases hw
    · rename_i hr
      cases hw
      exact ⟨m', rfl, hr, rfl⟩

/-- The header of the index. -/
def indexHeader (source : String) : Header := { title := "Generated builders", source }

/-- The files of some builders: one for each of them, in order, and the index. -/
theorem filesOf_eq_ok {support : Path} {source : String} {files : List File}
    (h : filesOf support source plans = .ok files) :
    files.map (·.name) = plans.map fileName ++ [indexName] ∧
      ∃ m, indexModule? plans = some m ∧
        files.getLast?
          = some { name := indexName, text := (indexHeader source).text ++ m.text } := by
  obtain ⟨built, hb, h⟩ := bind_eq_ok.mp h
  obtain ⟨index, hi, h⟩ := bind_eq_ok.mp h
  cases h
  obtain ⟨text, ht, hi⟩ := bind_eq_ok.mp hi
  cases hi
  obtain ⟨m, hm, -, rfl⟩ := writeModule_eq_ok ht
  have hnames : plans.map fileName = built.map (·.name) := by
    refine map_eq_map_of_forall₂ (mapM_eq_ok.mp hb) fun S f hf => ?_
    obtain ⟨_, -, hf⟩ := bind_eq_ok.mp hf
    cases hf
    rfl
  refine ⟨?_, m, hm, List.getLast?_concat⟩
  rw [List.map_append, hnames]
  rfl

/-- What is generated keeps its parts separate: every builder has a file and a name of its own. -/
structure Separate (source : String) (plans : List Plan) (files : List File) : Prop where
  /-- The files of the builders, in order, and the index behind them. -/
  order : files.map (·.name) = plans.map fileName ++ [indexName]
  /-- No two files have one name, whether or not case counts. -/
  apart : (files.map fun f => folded f.name).Nodup
  /-- No builder is where the index is, whether or not case counts. -/
  index : ∀ S ∈ plans, folded (fileName S) ≠ folded indexName
  /-- The index makes the builders and their entry functions available, in order. -/
  available : ∃ m, indexModule? plans = some m ∧
    files.getLast? = some { name := indexName, text := (indexHeader source).text ++ m.text } ∧
    reexports m = plans.map fun S => [S.builder, S.entry.name]
  builders : (plans.map (·.builder)).Nodup
  entries : (plans.map (·.entry.name)).Nodup

/-- **Nothing that is generated takes the place of anything else.** -/
theorem generate_separate (r : Request) (out : Output) (h : r.generate = .ok out) :
    Separate r.source r.batch.plans out.files := by
  obtain ⟨files, hf, h⟩ := bind_eq_ok.mp h
  cases h
  obtain ⟨horder, m, hm, hlast⟩ := filesOf_eq_ok hf
  have hapart : HoldsApart (finalPass r.descriptor r.selection r.support.compact) := by
    rw [finalPass_eq_over]
    exact holdsApart_over _ _
  have hmodules : (r.batch.plans.map (·.module)).Nodup := hapart.modules
  have hindex : folded indexName = indexName := by decide
  have hne : ∀ S ∈ r.batch.plans, folded (fileName S) ≠ folded indexName := by
    intro S hS
    rw [folded_fileName hS, hindex]
    exact fileName_ne_indexName hS
  refine ⟨horder, ?_, hne, ⟨m, hm, hlast, reexports_index hm⟩, ?_, hapart.entries⟩
  · -- lowering leaves the names as they are, so they are as different as the modules
    have hfolded : files.map (fun f => folded f.name)
        = r.batch.plans.map fileName ++ [indexName] := by
      have hmap : files.map (fun f => folded f.name) = (files.map (·.name)).map folded := by
        rw [List.map_map]
        rfl
      rw [hmap, horder, List.map_append, List.map_map, List.map_singleton, hindex]
      exact congrArg (· ++ [indexName]) (List.map_congr_left fun S hS => folded_fileName hS)
    rw [hfolded]
    refine List.nodup_append.mpr ⟨nodup_fileName hmodules, List.nodup_singleton _, ?_⟩
    intro n hn m hm
    obtain ⟨S, hS, rfl⟩ := List.mem_map.mp hn
    rw [List.mem_singleton.mp hm]
    exact fileName_ne_indexName hS
  · have hbuilders : r.batch.plans.map (·.module)
        = (r.batch.plans.map (·.builder)).map Name.moduleOf := by
      rw [List.map_map]
      refine List.map_congr_left fun S hS => ?_
      obtain ⟨-, -, -, hmodule⟩ := names_of_mem_plans hS
      exact hmodule
    rw [hbuilders] at hmodules
    exact hmodules.of_map

/-- Three classes.  The first two would have one module, and the third has a parameter of the type
    of the first. -/
def likes : Request where
  descriptor :=
    { version := Descriptor.currentVersion
      classes := [smallClass "FooBar" "m" "" .final [], smallClass "fooBar" "m" "x" .final [],
        smallClass "Foo" "m" "" .final [("bar", "FooBar")]] }
  support := .root ["autodsl_support"]
  source := "model.json"

/-- An output is there if it is not refused. -/
theorem exists_of_isOk {r : Request} (h : r.generate.isOk = true) :
    ∃ out, r.generate = .ok out := by
  cases hr : r.generate with
  | error f =>
    rw [hr] at h
    cases h
  | ok out => exact ⟨out, rfl⟩

theorem generate_separate_likes :
    ∃ out, likes.generate = .ok out ∧
      out.files.map (·.name) = ["foo_bar_builder.rs", "foo_builder.rs", "mod.rs"] ∧
      Separate "model.json" likes.batch.plans out.files := by
  obtain ⟨out, h⟩ := exists_of_isOk (r := likes) (by decide +kernel)
  have hseparate := generate_separate likes out h
  have hnames : likes.batch.plans.map fileName ++ [indexName]
      = ["foo_bar_builder.rs", "foo_builder.rs", "mod.rs"] := by decide +kernel
  exact ⟨out, h, hseparate.order.trans hnames, hseparate⟩

end FluentBuilders.Generation
