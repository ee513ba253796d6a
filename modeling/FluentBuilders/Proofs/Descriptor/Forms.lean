/-
  Forms — what is proved about the form of each record, record by record.

  A record that is written fills its form: this is where what the writer leaves out has to agree
  with what the form starts from.  A record that is read was looked at to its end, and is never too
  deep to be read again: what a file left out is written with its default, which may add levels at
  places where the file had none, but only a few, and a type is written with as many levels as it
  was read from.  How deep a record is when it is written is said once for each (`depth_parameter`
  and so on); that a field adds no more than the levels of its value then follows.

  Types are nested to any depth, and reading one takes a level of the document for the type and one
  for its arguments.
-/
import FluentBuilders.Descriptor.Reader
import FluentBuilders.Proofs.Json.Holding
import FluentBuilders.Proofs.Json.Printing

namespace FluentBuilders.Descriptor

open FluentBuilders.Json

variable {σ α : Type}

/-! ## Members that may be left out -/

/-- A member that is left out when its value is absent fills its field in either case. -/
theorem fills_optional {fields : List (Json.Field σ)} {ms : List (String × Json)} {s s' : σ}
    {key : String} {read : Reader α} {put : σ → Option α → σ} {json : α → Json} {o : Option α}
    (hn : ∀ a, json a ≠ .null) (h : ∀ a, Reads read a (json a)) (h0 : put s none = s)
    (hr : Fills fields ms (put s o) s') :
    Fills (.of key false (readOption read) put :: fields)
      (optionalMember key (o.map json) ++ ms) s s' := by
  cases o with
  | none =>
    rw [h0] at hr
    exact .leftOut rfl hr
  | some a => exact .field (reads_option (hn a) (h a)) hr

theorem fills_optional_last {s : σ} {key : String} {read : Reader α} {put : σ → Option α → σ}
    {json : α → Json} {o : Option α} (hn : ∀ a, json a ≠ .null) (h : ∀ a, Reads read a (json a))
    (h0 : put s none = s) :
    Fills [.of key false (readOption read) put] (optionalMember key (o.map json)) s (put s o) := by
  have hf : Fills [.of key false (readOption read) put] (optionalMember key (o.map json) ++ []) s
      (put s o) := fills_optional hn h h0 (.nil _)
  rwa [List.append_nil] at hf

/-- A value that has a word is read back from it. -/
theorem reads_word [DecidableEq α] {words : List (String × α)}
    (h : ∀ a, words.lookup (wordOf words a) = some a) (a : α) :
    Reads (readChoice words) a (wordJson words a) :=
  reads_choice (h a)

theorem reads_kind (k : DeclaredKind) : Reads (readChoice kindWords) k (wordJson kindWords k) :=
  reads_word (by rintro (_ | _ | _ | _ | _) <;> decide) k

theorem reads_visibility (v : DeclaredVisibility) :
    Reads (readChoice visibilityWords) v (wordJson visibilityWords v) :=
  reads_word (by rintro (_ | _ | _ | _) <;> decide) v

theorem reads_modality (m : DeclaredModality) :
    Reads (readChoice modalityWords) m (wordJson modalityWords m) :=
  reads_word (by rintro (_ | _ | _ | _) <;> decide) m

theorem reads_nesting (n : DeclaredNesting) :
    Reads (readChoice nestingWords) n (wordJson nestingWords n) :=
  reads_word (by rintro (_ | _ | _ | _) <;> decide) n

theorem reads_variance (v : Variance) :
    Reads (readChoice varianceWords) v (wordJson varianceWords v) :=
  reads_word (by rintro (_ | _ | _) <;> decide) v

/-! ## Types -/

theorem typeJsonList_eq (ts : List TypeRef) : typeJsonList ts = ts.map typeJson := by
  induction ts with
  | nil => rw [typeJsonList, List.map_nil]
  | cons t ts ih => rw [typeJsonList, ih, List.map_cons]

theorem typeJson_nil (name : String) (nullable : Bool) :
    typeJson ⟨name, [], nullable⟩
      = .object [("name", .text name), ("nullable", .bool nullable)] := by
  rw [typeJson]
  rfl

/-- A type with arguments lists them; without any, the member is left out. -/
theorem typeJson_cons (name : String) (t : TypeRef) (ts : List TypeRef) (nullable : Bool) :
    typeJson ⟨name, t :: ts, nullable⟩
      = .object [("name", .text name), ("arguments", .list ((t :: ts).map typeJson)),
          ("nullable", .bool nullable)] := by
  rw [typeJson, typeJsonList_eq]
  rfl

/-- A type is read back if its arguments are. -/
theorem reads_typeForm {argument : Reader TypeRef} {name : String} {ts : List TypeRef}
    {nullable : Bool} (h : ∀ t ∈ ts, Reads argument t (typeJson t)) :
    Reads (typeForm argument).read ⟨name, ts, nullable⟩ (typeJson ⟨name, ts, nullable⟩) := by
  have hk : ((typeForm argument).fields.map (·.key)).Nodup := by
    show ["name", "arguments", "nullable"].Nodup
    decide
  cases ts with
  | nil =>
    rw [typeJson_nil]
    exact Form.reads hk
      (.field (reads_text name) (.leftOut rfl (.field (reads_flag nullable) (.nil _))))
  | cons t ts =>
    rw [typeJson_cons]
    exact Form.reads hk
      (.field (reads_text name) (.field (reads_list h) (.field (reads_flag nullable) (.nil _))))

/-- A type is read back by a reader with a level for each of its own. -/
theorem reads_typeOf : ∀ (levels : Nat) (t : TypeRef), (typeJson t).depth ≤ levels →
    Reads (readTypeOf levels) t (typeJson t)
  | 0, ⟨name, ts, nullable⟩, h => by
    cases ts with
    | nil => simp [typeJson_nil] at h
    | cons t ts => simp [typeJson_cons] at h
  | levels + 1, ⟨name, ts, nullable⟩, h => by
    refine reads_typeForm fun t ht => reads_typeOf levels t ?_
    cases ts with
    | nil => cases ht
    | cons u us =>
      have hle : depthItems ((u :: us).map typeJson) + 1 ≤ levels := by
        simp only [typeJson_cons, depth_object, depthMembers_cons, depth_list] at h
        omega
      exact depthItems_le.mp (Nat.le_of_succ_le hle) _ (List.mem_map_of_mem ht)

theorem reads_type (t : TypeRef) : Reads readType t (typeJson t) :=
  fun room tree ht hd => reads_typeOf room t hd room tree ht hd

/-! ## Records -/

/-- A record of one field, which may be left out, as it is written. -/
def optionJson (key : String) (json : α → Json) (o : Option α) : Json :=
  .object (optionalMember key (o.map json))

theorem reads_generate (g : Generate) : Reads generateForm.read g g.json :=
  Form.reads (by decide) (.field (reads_text g.name) (.nil _))

theorem reads_classDirectives (o : Option Generate) :
    Reads classDirectivesForm.read o (optionJson "generate" Generate.json o) :=
  Form.reads (by decide) (fills_optional_last nofun reads_generate rfl)

theorem reads_constructorDirectives (b : Bool) :
    Reads constructorDirectivesForm.read b (.object [("canonical_constructor", .bool b)]) :=
  Form.reads (by decide) (.field (reads_flag b) (.nil _))

theorem reads_override (o : CollectionOverride) : Reads overrideForm.read o o.json :=
  Form.reads (by decide)
    (fills_optional nofun reads_text rfl (.field (reads_flag o.inline) (.nil _)))

theorem reads_parameterDirectives (o : Option CollectionOverride) :
    Reads parameterDirectivesForm.read o
      (optionJson "collection_override" CollectionOverride.json o) :=
  Form.reads (by decide) (fills_optional_last nofun reads_override rfl)

theorem reads_parameter (p : ParameterEntry) : Reads parameterForm.read p p.json :=
  Form.reads (by decide)
    (.field (reads_text p.name) (.field (reads_type p.type)
      (.field (reads_parameterDirectives p.override) (.nil _))))

theorem reads_constructor (c : ConstructorEntry) : Reads constructorForm.read c c.json :=
  Form.reads (by decide)
    (.field (reads_text c.function) (.field (reads_constructorDirectives c.canonical)
      (.field (reads_list fun p _ => reads_parameter p) (.nil _))))

theorem reads_parameterMetadata (p : ParameterMetadata) :
    Reads parameterMetadataForm.read p p.json :=
  Form.reads (by decide) (.field (reads_text p.name) (.field (reads_flag p.nullable) (.nil _)))

theorem reads_constructorMetadata (c : ConstructorMetadata) :
    Reads constructorMetadataForm.read c c.json :=
  Form.reads (by decide)
    (.field (reads_visibility c.visibility)
      (.field (reads_list fun p _ => reads_parameterMetadata p) (.nil _)))

theorem reads_typeParameter (p : TypeParameter) : Reads typeParameterForm.read p p.json := by
  rw [TypeParameter.json, typeJsonList_eq]
  exact Form.reads (by decide)
    (.field (reads_text p.name) (.field (reads_variance p.variance)
      (.field (reads_list fun t _ => reads_type t) (.nil _))))

theorem reads_metadata (m : Metadata) : Reads metadataForm.read m m.json :=
  Form.reads (by decide)
    (.field (reads_kind m.kind) (.field (reads_visibility m.visibility)
      (.field (reads_modality m.modality) (.field (reads_nesting m.nesting)
        (.field (reads_list fun p _ => reads_typeParameter p)
          (.field (reads_list fun c _ => reads_constructorMetadata c) (.nil _)))))))

theorem reads_class (c : ClassEntry) : Reads classForm.read c c.json :=
  Form.reads (by decide)
    (.field (reads_text c.name) (.field (reads_text c.package)
      (.field (reads_classDirectives c.generate)
        (.field (reads_list fun k _ => reads_constructor k)
          (fills_optional_last nofun reads_metadata rfl)))))

theorem reads_typeEntry (t : TypeEntry) : Reads typeEntryForm.read t t.json := by
  simp only [TypeEntry.json, List.append_assoc, List.cons_append, List.nil_append]
  exact Form.reads (by decide)
    (.field (reads_text t.name) (fills_optional nofun reads_text rfl
      (.field (reads_kind t.kind) (.field (reads_modality t.modality)
        (fills_optional nofun reads_generate rfl
          (fills_optional_last nofun reads_text rfl))))))

/-- **A descriptor is read back** from every tree that holds it. -/
theorem reads_descriptor (d : Descriptor) (hv : d.version ≤ 0xFFFFFFFF) :
    Reads form.read d d.json := by
  simp only [json, List.cons_append, List.nil_append]
  exact Form.reads (by decide)
    (.field (reads_word32 hv) (fills_optional nofun (reads_textAs _) rfl
      (.field (reads_list fun c _ => reads_class c)
        (.field (reads_list fun t _ => reads_typeEntry t) (.nil _)))))

/-! ## Levels of what was read -/

/-- What a reader makes has, when it is written, no more levels than there was room for, or than
    `c` if that is more. -/
def Bounded (c : Nat) (read : Reader α) (levels : α → Nat) : Prop :=
  ∀ room t a, read room t = .ok a → levels a ≤ max room c

theorem bounded_flat (read : Reader α) : Bounded 0 read fun _ => 0 :=
  fun _ _ _ _ => Nat.zero_le _

/-- The levels of a value that may be missing. -/
def optionDepth (json : α → Json) : Option α → Nat
  | none => 0
  | some a => (json a).depth

/-- A value that may be missing has no more levels than one that is there. -/
theorem bounded_option {c : Nat} {read : Reader α} {json : α → Json}
    (h : Bounded c read fun a => (json a).depth) :
    Bounded c (readOption read) (optionDepth json) := by
  intro room t o ho
  unfold readOption at ho
  split at ho
  · cases ho
    exact Nat.zero_le _
  · obtain ⟨a, ha, rfl⟩ := map_eq_ok.mp ho
    exact h _ _ a ha

/-- Each item of a list that was read was read from an item of the tree. -/
theorem exists_of_mem_items {read : Tree → Except Failure α} :
    ∀ (items : Items) (i : Nat) (as : List α), items.read read i = .ok as →
      ∀ a ∈ as, ∃ t, read t = .ok a
  | .close _, _, _, h, a, ha => by
    cases h
    cases ha
  | .item v rest, i, _, h, a, ha => by
    obtain ⟨b, hb, h⟩ := bind_eq_ok.mp h
    obtain ⟨bs, hbs, h⟩ := bind_eq_ok.mp h
    cases h
    rcases List.mem_cons.mp ha with rfl | ha
    · exact ⟨v, within_eq_ok.mp hb⟩
    · exact exists_of_mem_items rest (i + 1) bs hbs a ha

/-- A list has one level more than its items, and takes one level of the room. -/
theorem bounded_list {c : Nat} (c' : Nat) (hc : c ≤ c' - 1) {read : Reader α} {json : α → Json}
    (h : Bounded c read fun a => (json a).depth) :
    Bounded c' (readList read) fun as => depthItems (as.map json) + 1 := by
  intro room t as has
  unfold readList at has
  split at has
  · exact (failAt_ne_ok has).elim
  · rename_i room _ items
    have hle : depthItems (as.map json) ≤ max room c := by
      refine depthItems_le.mpr fun v hv => ?_
      obtain ⟨a, ha, rfl⟩ := List.mem_map.mp hv
      obtain ⟨t, ht⟩ := exists_of_mem_items items 0 as has a ha
      exact h room t a ht
    show depthItems (as.map json) + 1 ≤ _
    omega
  · exact (mismatch_ne_ok has).elim

/-- Putting a value into a record makes it no deeper than there is room for. -/
def FieldBounded (c : Nat) (json : σ → Json) (x : Json.Field σ) : Prop :=
  ∀ room t s s', (json s).depth ≤ max (room + 1) c → x.read room t s = .ok s' →
    (json s').depth ≤ max (room + 1) c

/-- A value that is put into a record brings its own levels, one level down, and no others. -/
theorem FieldBounded.of {c c' : Nat} {json : σ → Json} {read : Reader α} {levels : α → Nat}
    (hr : Bounded c' read levels) (hc : c' ≤ c - 1) {key : String} {required : Bool}
    {put : σ → α → σ}
    (hp : ∀ s a, (json (put s a)).depth ≤ max (json s).depth (levels a + 1)) :
    FieldBounded c json (.of key required read put) := by
  intro room t s s' hs h
  obtain ⟨a, ha, rfl⟩ := map_eq_ok.mp h
  have hle := hr room t a ha
  have hput := hp s a
  omega

/-- A value without levels leaves the record as deep as it is. -/
theorem FieldBounded.flat {c : Nat} {json : σ → Json} {read : Reader α} {key : String}
    {required : Bool} {put : σ → α → σ} (hp : ∀ s a, (json (put s a)).depth = (json s).depth) :
    FieldBounded c json (.of key required read put) := by
  refine .of (bounded_flat read) (Nat.zero_le _) fun s a => ?_
  rw [hp]
  exact Nat.le_max_left _ _

/-- A record is bounded if it is before any field is read, and each field keeps it bounded. -/
theorem bounded_form {c : Nat} {json : σ → Json} {f : Form σ}
    (h0 : (json f.start).depth ≤ max 1 c) (hf : ∀ x ∈ f.fields, FieldBounded c json x) :
    Bounded c f.read fun s => (json s).depth := by
  intro room t s h
  refine Form.keeps (P := fun s => (json s).depth ≤ max room c) h ?_
  rintro r rfl
  refine ⟨?_, fun x hx t s s' hs hr => hf x hx r t s s' hs hr⟩
  show (json f.start).depth ≤ _
  omega

/-! ## Levels of what is written -/

@[simp] theorem depth_wordJson [DecidableEq α] (words : List (String × α)) (a : α) :
    (wordJson words a).depth = 0 := by
  rw [wordJson, depth_text]

@[simp] theorem depth_optionalMember (key : String) (json : α → Json) (o : Option α) :
    depthMembers (optionalMember key (o.map json)) = optionDepth json o := by
  cases o with
  | none => rw [Option.map_none, optionalMember, depthMembers_nil, optionDepth]
  | some a =>
    rw [Option.map_some, optionalMember, depthMembers_cons, depthMembers_nil, Nat.max_zero,
      optionDepth]

@[simp] theorem optionDepth_text (o : Option String) : optionDepth Json.text o = 0 := by
  cases o with
  | none => rfl
  | some s => exact depth_text s

theorem depth_optionJson (key : String) (json : α → Json) (o : Option α) :
    (optionJson key json o).depth = optionDepth json o + 1 := by
  rw [optionJson, depth_object, depth_optionalMember]

/-- A type has a level of its own, and one for the list of arguments if there is any. -/
theorem depth_typeJson (name : String) (ts : List TypeRef) (nullable : Bool) :
    (typeJson ⟨name, ts, nullable⟩).depth
      = if ts = [] then 1 else depthItems (ts.map typeJson) + 2 := by
  cases ts with
  | nil =>
    rw [typeJson_nil]
    rfl
  | cons t ts =>
    rw [typeJson_cons, if_neg (List.cons_ne_nil t ts)]
    simp only [depth_object, depthMembers_cons, depth_text, depth_list, depth_bool,
      depthMembers_nil, Nat.zero_max, Nat.max_zero]

theorem depth_generate (g : Generate) : g.json.depth = 1 := by
  simp [Generate.json]

theorem depth_override (o : CollectionOverride) : o.json.depth = 1 := by
  simp [CollectionOverride.json]

theorem depth_parameter (p : ParameterEntry) : p.json.depth
    = max (typeJson p.type).depth (optionDepth CollectionOverride.json p.override + 1) + 1 := by
  simp [ParameterEntry.json]

theorem depth_constructor (c : ConstructorEntry) :
    c.json.depth = depthItems (c.parameters.map ParameterEntry.json) + 2 := by
  simp [ConstructorEntry.json]

theorem depth_parameterMetadata (p : ParameterMetadata) : p.json.depth = 1 := by
  simp [ParameterMetadata.json]

theorem depth_constructorMetadata (c : ConstructorMetadata) :
    c.json.depth = depthItems (c.parameters.map ParameterMetadata.json) + 2 := by
  simp [ConstructorMetadata.json]

theorem depth_typeParameter (p : TypeParameter) :
    p.json.depth = depthItems (p.bounds.map typeJson) + 2 := by
  simp [TypeParameter.json, typeJsonList_eq]

theorem depth_metadata (m : Metadata) : m.json.depth
    = max (depthItems (m.typeParameters.map TypeParameter.json))
        (depthItems (m.constructors.map ConstructorMetadata.json)) + 2 := by
  simp [Metadata.json]

theorem depth_class (c : ClassEntry) : c.json.depth
    = max (optionDepth Generate.json c.generate + 1)
        (max (depthItems (c.constructors.map ConstructorEntry.json) + 1)
          (optionDepth Metadata.json c.metadata)) + 1 := by
  simp [ClassEntry.json]

theorem depth_typeEntry (t : TypeEntry) :
    t.json.depth = optionDepth Generate.json t.generate + 1 := by
  simp [TypeEntry.json]

theorem depth_descriptor (d : Descriptor) : d.json.depth
    = max (depthItems (d.classes.map ClassEntry.json))
        (depthItems (d.types.map TypeEntry.json)) + 2 := by
  simp [json]

/-! ## Levels of what was read, record by record

The number of each record bounds the levels that can come from what a file left out: lists and
directives are written in any case, and those of a record are a level below it. -/

/-- Types are read with a level for the type and one for its arguments, so the list of arguments
    is the one field that brings levels. -/
theorem bounded_typeForm {argument : Reader TypeRef}
    (ha : Bounded 0 argument fun t => (typeJson t).depth) :
    Bounded 0 (typeForm argument).read fun t => (typeJson t).depth := by
  refine bounded_form (by rw [typeForm, depth_typeJson]; decide) ?_
  simp only [typeForm, List.forall_mem_cons]
  refine ⟨.flat ?_, .of (bounded_list 0 (by decide) ha) (by decide) ?_, .flat ?_, nofun⟩
  · rintro ⟨name, ts, nullable⟩ name'
    rw [depth_typeJson, depth_typeJson]
  · rintro ⟨name, ts, nullable⟩ ts'
    rw [depth_typeJson, depth_typeJson]
    split <;> split <;> omega
  · rintro ⟨name, ts, nullable⟩ nullable'
    rw [depth_typeJson, depth_typeJson]

/-- A type is written with as many levels as it was read from. -/
theorem bounded_type : Bounded 0 readType fun t => (typeJson t).depth := by
  have hlevels : ∀ levels, Bounded 0 (readTypeOf levels) fun t => (typeJson t).depth := by
    intro levels
    induction levels with
    | zero => exact bounded_typeForm fun room t a h => (failAt_ne_ok h).elim
    | succ levels ih => exact bounded_typeForm ih
  exact fun room t a h => hlevels room room t a h

theorem bounded_text {read : Reader String} : Bounded 0 read fun s => (Json.text s).depth :=
  fun _ _ s _ => Nat.le_trans (Nat.le_of_eq (depth_text s)) (Nat.zero_le _)

/-- Records of one field that may be left out: what the mark has, and a level for the record. -/
theorem bounded_optionForm {c : Nat} {name key : String} {read : Reader α} {json : α → Json}
    (h : Bounded c read fun a => (json a).depth) :
    Bounded (c + 1) (Form.read ⟨name, [.of key false (readOption read) fun _ o => o], none⟩)
      fun o => (optionJson key json o).depth := by
  refine bounded_form (Nat.le_trans (Nat.le_of_eq (depth_optionJson key json none)) ?_) ?_
  · exact Nat.le_max_left 1 (c + 1)
  · simp only [List.forall_mem_cons]
    refine ⟨.of (bounded_option h) (Nat.le_refl c) fun o o' => ?_, nofun⟩
    rw [depth_optionJson]
    exact Nat.le_max_right _ _

theorem bounded_generate : Bounded 0 generateForm.read fun g => g.json.depth := by
  refine bounded_form (by decide) ?_
  simp only [generateForm, List.forall_mem_cons]
  exact ⟨.flat fun _ _ => by simp only [depth_generate], nofun⟩

theorem bounded_override : Bounded 0 overrideForm.read fun o => o.json.depth := by
  refine bounded_form (by decide) ?_
  simp only [overrideForm, List.forall_mem_cons]
  exact ⟨.flat fun _ _ => by simp only [depth_override],
    .flat fun _ _ => by simp only [depth_override], nofun⟩

theorem bounded_parameter : Bounded 2 parameterForm.read fun p => p.json.depth := by
  refine bounded_form (by decide) ?_
  simp only [parameterForm, List.forall_mem_cons]
  refine ⟨.flat fun _ _ => ?_, .of bounded_type (by decide) fun _ _ => ?_,
    .of (bounded_optionForm bounded_override) (by decide) fun _ _ => ?_, nofun⟩
  all_goals simp only [depth_parameter, depth_optionJson]
  all_goals omega

theorem bounded_constructor : Bounded 4 constructorForm.read fun c => c.json.depth := by
  refine bounded_form (by decide) ?_
  simp only [constructorForm, List.forall_mem_cons]
  refine ⟨.flat fun _ _ => ?_, .flat fun _ _ => ?_,
    .of (bounded_list 3 (by decide) bounded_parameter) (by decide) fun _ _ => ?_, nofun⟩
  all_goals simp only [depth_constructor]
  omega

theorem bounded_parameterMetadata : Bounded 0 parameterMetadataForm.read fun p => p.json.depth := by
  refine bounded_form (by decide) ?_
  simp only [parameterMetadataForm, List.forall_mem_cons]
  exact ⟨.flat fun _ _ => by simp only [depth_parameterMetadata],
    .flat fun _ _ => by simp only [depth_parameterMetadata], nofun⟩

theorem bounded_constructorMetadata :
    Bounded 2 constructorMetadataForm.read fun c => c.json.depth := by
  refine bounded_form (by decide) ?_
  simp only [constructorMetadataForm, List.forall_mem_cons]
  refine ⟨.flat fun _ _ => ?_,
    .of (bounded_list 1 (by decide) bounded_parameterMetadata) (by decide) fun _ _ => ?_, nofun⟩
  all_goals simp only [depth_constructorMetadata]
  omega

theorem bounded_typeParameter : Bounded 2 typeParameterForm.read fun p => p.json.depth := by
  refine bounded_form (by decide) ?_
  simp only [typeParameterForm, List.forall_mem_cons]
  refine ⟨.flat fun _ _ => ?_, .flat fun _ _ => ?_,
    .of (bounded_list 1 (by decide) bounded_type) (by decide) fun _ _ => ?_, nofun⟩
  all_goals simp only [depth_typeParameter]
  omega

theorem bounded_metadata : Bounded 4 metadataForm.read fun m => m.json.depth := by
  refine bounded_form (by decide) ?_
  simp only [metadataForm, List.forall_mem_cons]
  refine ⟨.flat fun _ _ => ?_, .flat fun _ _ => ?_, .flat fun _ _ => ?_, .flat fun _ _ => ?_,
    .of (bounded_list 3 (by decide) bounded_typeParameter) (by decide) fun _ _ => ?_,
    .of (bounded_list 3 (by decide) bounded_constructorMetadata) (by decide) fun _ _ => ?_, nofun⟩
  all_goals simp only [depth_metadata]
  all_goals omega

theorem bounded_class : Bounded 6 classForm.read fun c => c.json.depth := by
  refine bounded_form (by decide) ?_
  simp only [classForm, List.forall_mem_cons]
  refine ⟨.flat fun _ _ => ?_, .flat fun _ _ => ?_,
    .of (bounded_optionForm bounded_generate) (by decide) fun _ _ => ?_,
    .of (bounded_list 5 (by decide) bounded_constructor) (by decide) fun _ _ => ?_,
    .of (bounded_option bounded_metadata) (by decide) fun _ _ => ?_, nofun⟩
  all_goals simp only [depth_class, depth_optionJson]
  all_goals omega

theorem bounded_typeEntry : Bounded 0 typeEntryForm.read fun t => t.json.depth := by
  refine bounded_form (by decide) ?_
  simp only [typeEntryForm, List.forall_mem_cons]
  refine ⟨.flat fun _ _ => ?_, .flat fun _ _ => ?_, .flat fun _ _ => ?_, .flat fun _ _ => ?_,
    .of (bounded_option bounded_generate) (by decide) fun _ _ => ?_, .flat fun _ _ => ?_, nofun⟩
  all_goals simp only [depth_typeEntry]
  exact Nat.le_max_right _ _

/-- **A descriptor that was read** has no more levels, when it is written, than there was room for,
    or eight. -/
theorem bounded_descriptor : Bounded 8 form.read fun d => d.json.depth := by
  refine bounded_form (by decide) ?_
  simp only [form, List.forall_mem_cons]
  refine ⟨.flat fun _ _ => ?_, .flat fun _ _ => ?_,
    .of (bounded_list 7 (by decide) bounded_class) (by decide) fun _ _ => ?_,
    .of (bounded_list 1 (by decide) bounded_typeEntry) (by decide) fun _ _ => ?_, nofun⟩
  all_goals simp only [depth_descriptor]
  all_goals omega

/-! ## Numbers -/

@[simp] theorem integral_optionalMember {key : String} {o : Option Json} :
    (∀ k v, (k, v) ∈ optionalMember key o → v.Integral) ↔ ∀ v ∈ o, v.Integral := by
  cases o <;> simp [optionalMember]

@[simp] theorem integral_wordJson [DecidableEq α] (words : List (String × α)) (a : α) :
    (wordJson words a).Integral := trivial

@[simp] theorem integral_typeJson : ∀ t : TypeRef, (typeJson t).Integral
  | ⟨name, [], nullable⟩ => by simp [typeJson_nil, or_imp, forall_and]
  | ⟨name, t :: ts, nullable⟩ => by
    have h : ∀ u ∈ t :: ts, (typeJson u).Integral := fun u hu => integral_typeJson u
    rw [typeJson_cons]
    simpa [or_imp, forall_and] using h
termination_by t => sizeOf t
decreasing_by
  have hlt := List.sizeOf_lt_of_mem hu
  simp only [List.cons.sizeOf_spec, TypeRef.mk.sizeOf_spec] at hlt ⊢
  omega

@[simp] theorem integral_generate (g : Generate) : g.json.Integral := by
  simp [Generate.json]

@[simp] theorem integral_override (o : CollectionOverride) : o.json.Integral := by
  simp [CollectionOverride.json, or_imp, forall_and]

@[simp] theorem integral_parameter (p : ParameterEntry) : p.json.Integral := by
  simp [ParameterEntry.json, or_imp, forall_and]

@[simp] theorem integral_constructor (c : ConstructorEntry) : c.json.Integral := by
  simp [ConstructorEntry.json, or_imp, forall_and]

@[simp] theorem integral_parameterMetadata (p : ParameterMetadata) : p.json.Integral := by
  simp [ParameterMetadata.json, or_imp, forall_and]

@[simp] theorem integral_constructorMetadata (c : ConstructorMetadata) : c.json.Integral := by
  simp [ConstructorMetadata.json, or_imp, forall_and]

@[simp] theorem integral_typeParameter (p : TypeParameter) : p.json.Integral := by
  simp [TypeParameter.json, typeJsonList_eq, or_imp, forall_and]

@[simp] theorem integral_metadata (m : Metadata) : m.json.Integral := by
  simp [Metadata.json, or_imp, forall_and]

@[simp] theorem integral_class (c : ClassEntry) : c.json.Integral := by
  simp [ClassEntry.json, or_imp, forall_and]

@[simp] theorem integral_typeEntry (t : TypeEntry) : t.json.Integral := by
  simp [TypeEntry.json, or_imp, forall_and]

/-- **The numbers in a written descriptor** are whole and fit into a machine word. -/
theorem integral_descriptor {d : Descriptor} (hv : d.version ≤ 0xFFFFFFFFFFFFFFFF) :
    d.json.Integral := by
  simp [json, or_imp, forall_and, integral_ofNat hv]

/-! ## Strict forms -/

/-- Types are read strictly at every depth. -/
theorem strict_type : Strict readType := by
  have hform : ∀ argument : Reader TypeRef, Strict argument → Strict (typeForm argument).read := by
    intro argument ha
    refine Form.strict ?_
    simp only [typeForm, List.forall_mem_cons]
    exact ⟨.of strict_readText, .of (strict_readList ha), .of strict_readFlag, nofun⟩
  have hlevels : ∀ levels, Strict (readTypeOf levels) := by
    intro levels
    induction levels with
    | zero => exact hform _ fun room t a _ h => (failAt_ne_ok h).elim
    | succ levels ih => exact hform _ ih
  exact fun room t a hc h => hlevels room room t a hc h

theorem strict_generate : Strict generateForm.read := by
  refine Form.strict ?_
  simp only [generateForm, List.forall_mem_cons]
  exact ⟨.of strict_readText, nofun⟩

theorem strict_classDirectives : Strict classDirectivesForm.read := by
  refine Form.strict ?_
  simp only [classDirectivesForm, List.forall_mem_cons]
  exact ⟨.of (strict_readOption strict_generate), nofun⟩

theorem strict_constructorDirectives : Strict constructorDirectivesForm.read := by
  refine Form.strict ?_
  simp only [constructorDirectivesForm, List.forall_mem_cons]
  exact ⟨.of strict_readFlag, nofun⟩

theorem strict_override : Strict overrideForm.read := by
  refine Form.strict ?_
  simp only [overrideForm, List.forall_mem_cons]
  exact ⟨.of (strict_readOption strict_readText), .of strict_readFlag, nofun⟩

theorem strict_parameterDirectives : Strict parameterDirectivesForm.read := by
  refine Form.strict ?_
  simp only [parameterDirectivesForm, List.forall_mem_cons]
  exact ⟨.of (strict_readOption strict_override), nofun⟩

theorem strict_parameter : Strict parameterForm.read := by
  refine Form.strict ?_
  simp only [parameterForm, List.forall_mem_cons]
  exact ⟨.of strict_readText, .of strict_type, .of strict_parameterDirectives, nofun⟩

theorem strict_constructor : Strict constructorForm.read := by
  refine Form.strict ?_
  simp only [constructorForm, List.forall_mem_cons]
  exact ⟨.of strict_readText, .of strict_constructorDirectives,
    .of (strict_readList strict_parameter), nofun⟩

theorem strict_parameterMetadata : Strict parameterMetadataForm.read := by
  refine Form.strict ?_
  simp only [parameterMetadataForm, List.forall_mem_cons]
  exact ⟨.of strict_readText, .of strict_readFlag, nofun⟩

theorem strict_constructorMetadata : Strict constructorMetadataForm.read := by
  refine Form.strict ?_
  simp only [constructorMetadataForm, List.forall_mem_cons]
  exact ⟨.of (strict_readChoice _), .of (strict_readList strict_parameterMetadata), nofun⟩

theorem strict_typeParameter : Strict typeParameterForm.read := by
  refine Form.strict ?_
  simp only [typeParameterForm, List.forall_mem_cons]
  exact ⟨.of strict_readText, .of (strict_readChoice _), .of (strict_readList strict_type),
    nofun⟩

theorem strict_metadata : Strict metadataForm.read := by
  refine Form.strict ?_
  simp only [metadataForm, List.forall_mem_cons]
  exact ⟨.of (strict_readChoice _), .of (strict_readChoice _), .of (strict_readChoice _),
    .of (strict_readChoice _), .of (strict_readList strict_typeParameter),
    .of (strict_readList strict_constructorMetadata), nofun⟩

theorem strict_class : Strict classForm.read := by
  refine Form.strict ?_
  simp only [classForm, List.forall_mem_cons]
  exact ⟨.of strict_readText, .of strict_readText, .of strict_classDirectives,
    .of (strict_readList strict_constructor), .of (strict_readOption strict_metadata), nofun⟩

theorem strict_typeEntry : Strict typeEntryForm.read := by
  refine Form.strict ?_
  simp only [typeEntryForm, List.forall_mem_cons]
  exact ⟨.of strict_readText, .of (strict_readOption strict_readText), .of (strict_readChoice _),
    .of (strict_readChoice _), .of (strict_readOption strict_generate),
    .of (strict_readOption strict_readText), nofun⟩

/-- **A descriptor is read strictly.** -/
theorem strict_descriptor : Strict form.read := by
  refine Form.strict ?_
  simp only [form, List.forall_mem_cons]
  exact ⟨.of strict_readWord32, .of (strict_readOption (strict_readTextAs _)),
    .of (strict_readList strict_class), .of (strict_readList strict_typeEntry), nofun⟩

end FluentBuilders.Descriptor
