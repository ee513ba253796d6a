/-
  Remarks — what the name of the descriptor does to the files.

  The name of the descriptor is written into the header of every file, and nowhere else: whatever it
  is, the same files are written with the same code below their headers (`generate_twins`).  But it
  is put into a line of the header as it is, after the code was read back.  A name that goes on
  behind a line break goes on in the file on a line of its own, and unless this line begins as a
  remark does, it is code.  These lines of a name are its strays (`strays`).

  All other lines of a header are remarks, and the empty line behind it ends it in any case.  So
  what is left of a file without its remarks is the strays, the empty line and what is left of the
  code (`unremarked_file`), and all but the strays cancels where two files are compared.
-/
import FluentBuilders.Proofs.Generation.Files

namespace FluentBuilders.Generation

open Batch Code

/-! ## Lines -/

/-- The lines of a text. -/
def linesOf (cs : List Char) : List (List Char) := cs.splitOn '\n'

/-- Whether a line is a remark on the module that it is in. -/
def isRemark (line : List Char) : Bool := "//!".toList.isPrefixOf line

/-- The lines that stay when the remarks are deleted. -/
def unremarked (lines : List (List Char)) : List (List Char) := lines.filter (!isRemark ·)

/-- A text without its remarks. -/
def withoutRemarks (text : String) : String :=
  String.ofList (['\n'].intercalate (unremarked (linesOf text.toList)))

variable {c : Char} {xs ys first : List Char} {rest : List (List Char)}

theorem linesOf_append (xs ys : List Char) :
    linesOf (xs ++ '\n' :: ys) = linesOf xs ++ linesOf ys := List.splitOn_append_cons_self xs ys

theorem linesOf_break (xs : List Char) : linesOf ('\n' :: xs) = [] :: linesOf xs :=
  linesOf_append [] xs

theorem linesOf_cons (hc : c ≠ '\n') (h : linesOf xs = first :: rest) :
    linesOf (c :: xs) = (c :: first) :: rest := by
  rw [linesOf, List.splitOn, List.splitOnP_cons_eq_if_modifyHead,
    if_neg (by simpa using hc)]
  show (linesOf xs).modifyHead (List.cons c) = _
  rw [h, List.modifyHead_cons]

/-- What is in front of a text is in front of its first line. -/
theorem linesOf_front (hxs : '\n' ∉ xs) (h : linesOf ys = first :: rest) :
    linesOf (xs ++ ys) = (xs ++ first) :: rest := by
  induction xs with
  | nil => exact h
  | cons c xs ih =>
    obtain ⟨hc, hxs⟩ := not_or.mp (List.mem_cons.not.mp hxs)
    exact linesOf_cons (Ne.symm hc) (ih hxs)

theorem exists_linesOf (xs : List Char) : ∃ first rest, linesOf xs = first :: rest :=
  List.exists_cons_of_ne_nil (List.splitOn_ne_nil '\n' xs)

/-- There is no line break in a line. -/
theorem not_mem_of_mem_linesOf (h : first ∈ linesOf xs) : '\n' ∉ first := by
  induction xs generalizing first with
  | nil =>
    rw [List.mem_singleton.mp h]
    exact List.not_mem_nil
  | cons c xs ih =>
    by_cases hc : c = '\n'
    · rw [hc, linesOf_break] at h
      rcases List.mem_cons.mp h with rfl | h
      · exact List.not_mem_nil
      · exact ih h
    · obtain ⟨line, rest, hlines⟩ := exists_linesOf xs
      rw [linesOf_cons hc hlines] at h
      rw [hlines] at ih
      rcases List.mem_cons.mp h with rfl | h
      · exact fun hm => (List.mem_cons.mp hm).elim (Ne.symm hc) (ih List.mem_cons_self)
      · exact ih (List.mem_cons_of_mem line h)

/-! ## Texts without remarks -/

/-- The lines of a text behind the first, other than remarks. -/
def strays (text : String) : List (List Char) := unremarked (linesOf text.toList).tail

variable {x text text' : String}

/-- A text of one line has no strays. -/
theorem strays_of_not_mem (h : '\n' ∉ text.toList) : strays text = [] := by
  rw [strays, linesOf, List.splitOn_eq_singleton h]
  rfl

/-- What is put in front of a text stays on its first line. -/
theorem strays_append (h : '\n' ∉ x.toList) (text : String) : strays (x ++ text) = strays text := by
  obtain ⟨first, rest, hlines⟩ := exists_linesOf text.toList
  rw [strays, strays, String.toList_append, linesOf_front h hlines, hlines, List.tail_cons,
    List.tail_cons]

theorem unremarked_append (lines rest : List (List Char)) :
    unremarked (lines ++ rest) = unremarked lines ++ unremarked rest := List.filter_append ..

/-- Nothing is left of lines that are all remarks. -/
theorem unremarked_eq_nil_iff {lines : List (List Char)} :
    unremarked lines = [] ↔ ∀ l ∈ lines, isRemark l = true := by
  rw [unremarked, List.filter_eq_nil_iff]
  simp only [Bool.not_eq_true', Bool.not_eq_false]

/-- A remark is deleted; what goes on behind a line break in it stays. -/
theorem unremarked_remark (x : String) : unremarked (linesOf ("//!" ++ x).toList) = strays x := by
  obtain ⟨first, rest, h⟩ := exists_linesOf x.toList
  have hremark : isRemark ("//!".toList ++ first) = true :=
    List.isPrefixOf_iff_prefix.mpr (List.prefix_append _ first)
  rw [String.toList_append, linesOf_front (by decide) h, strays, h, unremarked,
    List.filter_cons_of_neg (by rw [hremark]; decide)]
  rfl

/-- Texts that are not made of remarks only are told apart by the lines that are left of them. -/
theorem withoutRemarks_eq_iff (h : unremarked (linesOf text.toList) ≠ [])
    (h' : unremarked (linesOf text'.toList) ≠ []) :
    withoutRemarks text = withoutRemarks text' ↔
      unremarked (linesOf text.toList) = unremarked (linesOf text'.toList) := by
  have hbreak : ∀ xs, ∀ l ∈ unremarked (linesOf xs), '\n' ∉ l :=
    fun xs l hl => not_mem_of_mem_linesOf (List.mem_of_mem_filter hl)
  rw [withoutRemarks, withoutRemarks, String.ofList_inj]
  refine ⟨fun hsame => ?_, congrArg _⟩
  rw [← List.splitOn_intercalate '\n' (hbreak _) h, hsame,
    List.splitOn_intercalate '\n' (hbreak _) h']

/-! ## Headers -/

/-- What a header says, remark by remark. -/
def Header.remarks (h : Header) : List String :=
  [" AUTO-GENERATED CODE - DO NOT EDIT!", "", " " ++ h.title, " Source: " ++ h.source,
    " Generated by `autodsl-gen` v" ++ version]

/-- Remarks in front of a text. -/
def remarked (xs : List String) (text : String) : String :=
  xs.foldr (fun x rest => "//!" ++ x ++ "\n" ++ rest) text

/-- A header is made of remarks, but for the empty line behind them. -/
def Header.AllRemarks (h : Header) : Prop :=
  ∃ lines, linesOf h.text.toList = lines ++ [[], []] ∧ ∀ l ∈ lines, isRemark l = true

variable {h h' : Header} {body : String}

/-- A file is the remarks of its header, an empty line and its code. -/
theorem text_append (h : Header) (body : String) :
    h.text ++ body = remarked h.remarks ("\n" ++ body) := by
  have hnotice : "//! AUTO-GENERATED CODE - DO NOT EDIT!\n//!\n"
      = "//!" ++ " AUTO-GENERATED CODE - DO NOT EDIT!" ++ "\n" ++ ("//!" ++ "" ++ "\n") := by
    decide +kernel
  have htitle : "//! " = "//!" ++ " " := by decide +kernel
  have hsource : "//! Source: " = "//!" ++ " Source: " := by decide +kernel
  have hversion :
      "//! Generated by `autodsl-gen` v" = "//!" ++ " Generated by `autodsl-gen` v" := by
    decide +kernel
  have hend : "\n\n" = "\n" ++ "\n" := by decide +kernel
  unfold Header.text Header.remarks remarked
  simp only [List.foldr_cons, List.foldr_nil, hnotice, htitle, hsource, hversion, hend,
    String.append_assoc]

/-- The lines of remarks in front of a text are those of each remark. -/
theorem linesOf_remarked (xs : List String) (text : String) :
    linesOf (remarked xs text).toList
      = (xs.flatMap fun x => linesOf ("//!" ++ x).toList) ++ linesOf text.toList := by
  induction xs with
  | nil => rfl
  | cons x xs ih =>
    have hlist : (remarked (x :: xs) text).toList
        = ("//!" ++ x).toList ++ '\n' :: (remarked xs text).toList := by
      show ("//!" ++ x ++ "\n" ++ remarked xs text).toList = _
      rw [String.toList_append, String.toList_append, List.append_assoc]
      rfl
    rw [hlist, linesOf_append, ih, List.flatMap_cons, List.append_assoc]

/-- The lines of a file are those of its header, the empty one and those of its code. -/
theorem linesOf_file (h : Header) (body : String) :
    linesOf (h.text ++ body).toList
      = (h.remarks.flatMap fun x => linesOf ("//!" ++ x).toList) ++ [] :: linesOf body.toList := by
  rw [text_append, linesOf_remarked, String.toList_append]
  exact congrArg _ (linesOf_break body.toList)

theorem unremarked_flatMap (xs : List String) :
    unremarked (xs.flatMap fun x => linesOf ("//!" ++ x).toList) = xs.flatMap strays := by
  induction xs with
  | nil => rfl
  | cons x xs ih =>
    rw [List.flatMap_cons, List.flatMap_cons, unremarked_append, unremarked_remark, ih]

/-- Only the title and the source can bring further lines into a header. -/
theorem strays_remarks (h : Header) :
    h.remarks.flatMap strays = strays h.title ++ strays h.source := by
  simp (disch := decide +kernel) only [Header.remarks, List.flatMap_cons, List.flatMap_nil,
    strays_of_not_mem, strays_append, List.nil_append, List.append_nil]

/-- **What is left of a file without its remarks**: what is left of its header, the empty line, and
    what is left of its code. -/
theorem unremarked_file (h : Header) (body : String) :
    unremarked (linesOf (h.text ++ body).toList)
      = strays h.title ++ (strays h.source ++ [] :: unremarked (linesOf body.toList)) := by
  have hempty : ∀ lines, unremarked ([] :: lines) = [] :: unremarked lines :=
    fun lines => List.filter_cons_of_pos (by decide)
  rw [linesOf_file, unremarked_append, unremarked_flatMap, strays_remarks, hempty,
    List.append_assoc]

/-- The same code below headers of the same title leaves the same if the names have the same
    strays. -/
theorem withoutRemarks_file_iff (ht : h.title = h'.title) :
    withoutRemarks (h.text ++ body) = withoutRemarks (h'.text ++ body) ↔
      strays h.source = strays h'.source := by
  have hne : ∀ h : Header, unremarked (linesOf (h.text ++ body).toList) ≠ [] := by
    intro h
    rw [unremarked_file]
    simp
  rw [withoutRemarks_eq_iff (hne h) (hne h'), unremarked_file, unremarked_file, ht,
    List.append_cancel_left_eq, List.append_cancel_right_eq]

/-- A header with its title on one line is made of remarks if the name has no strays. -/
theorem allRemarks_iff (ht : '\n' ∉ h.title.toList) : h.AllRemarks ↔ strays h.source = [] := by
  have hlines : linesOf h.text.toList
      = (h.remarks.flatMap fun x => linesOf ("//!" ++ x).toList) ++ [[], []] := by
    rw [← String.append_empty (s := h.text), linesOf_file]
    rfl
  have hstrays : strays h.title ++ strays h.source = strays h.source := by
    rw [strays_of_not_mem ht, List.nil_append]
  rw [← hstrays, ← strays_remarks, ← unremarked_flatMap, unremarked_eq_nil_iff]
  constructor
  · rintro ⟨lines, hl, hall⟩
    rw [List.append_cancel_right (hlines.symm.trans hl)]
    exact hall
  · intro hall
    exact ⟨_, hlines, hall⟩

/-! ## Two runs -/

/-- One file as it is written under two names of the descriptor: the same code stands below headers
    with the same title, which is on one line. -/
structure Twins (s t : String) (f f' : File) : Prop where
  name : f.name = f'.name
  text : ∃ title body, '\n' ∉ title.toList ∧
    f.text = Header.text { title, source := s } ++ body ∧
    f'.text = Header.text { title, source := t } ++ body

variable {s t : String} {f f' : File} {support : Path} {plans : List Plan} {S : Plan}

/-- **One file under two names** is the same without remarks if the names have the same strays. -/
theorem Twins.withoutRemarks_iff (h : Twins s t f f') :
    withoutRemarks f.text = withoutRemarks f'.text ↔ strays s = strays t := by
  obtain ⟨title, body, -, hf, hf'⟩ := h.text
  rw [hf, hf']
  exact withoutRemarks_file_iff rfl

/-- Whether two runs agree without remarks can be seen on any one of the files. -/
theorem withoutRemarks_files_iff {files files' : List File}
    (h : List.Forall₂ (Twins s t) files files') (hne : files ≠ []) :
    files.map (fun f => withoutRemarks f.text) = files'.map (fun f => withoutRemarks f.text) ↔
      strays s = strays t := by
  constructor
  · intro hsame
    cases h with
    | nil => exact absurd rfl hne
    | cons hfile _ => exact hfile.withoutRemarks_iff.mp (List.cons.inj hsame).1
  · intro hsame
    exact map_eq_map_of_forall₂ h fun f f' hfile => hfile.withoutRemarks_iff.mpr hsame

/-- A stray of the name is a line of the file by itself. -/
theorem Twins.mem_linesOf (h : Twins s t f f') {line : List Char} (hline : line ∈ strays t) :
    line ∈ linesOf f'.text.toList := by
  obtain ⟨title, body, -, -, hf'⟩ := h.text
  apply List.mem_of_mem_filter
  show line ∈ unremarked (linesOf f'.text.toList)
  rw [hf', unremarked_file]
  exact List.mem_append_right _ (List.mem_append_left _ hline)

/-- Whether a module is written does not depend on the header. -/
theorem writeModule_twin {m : Option Module} {refused : Refusal → Failure} {text : String}
    (hw : writeModule h m refused = .ok text) (h' : Header) :
    ∃ body, text = h.text ++ body ∧ writeModule h' m refused = .ok (h'.text ++ body) := by
  obtain ⟨m', rfl, hr, rfl⟩ := writeModule_eq_ok hw
  refine ⟨m'.text, rfl, ?_⟩
  unfold writeModule
  simp only [hr]

/-- The file of a builder is written under any name, if it is under one. -/
theorem builderFile_twin (ht : '\n' ∉ S.className.toList)
    (hf : builderFile support s S = .ok f) (t : String) :
    ∃ f', builderFile support t S = .ok f' ∧ Twins s t f f' := by
  obtain ⟨text, hw, hf⟩ := bind_eq_ok.mp hf
  cases hf
  obtain ⟨body, rfl, hw'⟩ := writeModule_twin hw (builderHeader t S)
  refine ⟨_, bind_eq_ok.mpr ⟨_, hw', rfl⟩, rfl, _, body, ?_, rfl, rfl⟩
  simpa [String.toList_append] using ht

/-- The index is written under any name, if it is under one. -/
theorem indexFile_twin (hf : indexFile s plans = .ok f) (t : String) :
    ∃ f', indexFile t plans = .ok f' ∧ Twins s t f f' := by
  obtain ⟨text, hw, hf⟩ := bind_eq_ok.mp hf
  cases hf
  obtain ⟨body, rfl, hw'⟩ := writeModule_twin hw (indexHeader t)
  exact ⟨_, bind_eq_ok.mpr ⟨_, hw', rfl⟩, rfl, _, body, by decide, rfl, rfl⟩

theorem builderFiles_twin {files : List File} (ht : ∀ S ∈ plans, '\n' ∉ S.className.toList)
    (hf : plans.mapM (builderFile support s) = .ok files) (t : String) :
    ∃ files', plans.mapM (builderFile support t) = .ok files' ∧
      List.Forall₂ (Twins s t) files files' := by
  induction plans generalizing files with
  | nil =>
    cases hf
    exact ⟨[], rfl, .nil⟩
  | cons S plans ih =>
    obtain ⟨hS, ht⟩ := List.forall_mem_cons.mp ht
    cases mapM_eq_ok.mp hf with
    | cons hfile hrest =>
      obtain ⟨file', hfile', htwin⟩ := builderFile_twin hS hfile t
      obtain ⟨rest', hrest', htwins⟩ := ih ht (mapM_eq_ok.mpr hrest)
      exact ⟨file' :: rest', mapM_eq_ok.mpr (.cons hfile' (mapM_eq_ok.mp hrest')),
        .cons htwin htwins⟩

/-- The class of a plan has an identifier for its name, so it is written on one line. -/
theorem className_of_mem_plans {d : Descriptor} {selection : Selection} {path : String}
    (h : S ∈ (synthesize d selection path).plans) : '\n' ∉ S.className.toList := by
  obtain ⟨e, he⟩ := mem_plans_iff.mp h
  have hp := process_of_accepted he
  obtain ⟨f, -, -, hf, -⟩ := process_synthesized hp
  obtain ⟨-, hclass, -, -⟩ := process_names hp
  have hname : Name.isIdentifier S.className = true := by
    rw [hclass, ← (read_eq_ok hf).1]
    exact (Class.checked_of_read hf).name
  intro hbreak
  have hpart := Name.isPart_of_isPlain (Name.isIdentifier_iff.mp hname).1 _ hbreak
  revert hpart
  decide

/-- **Two names of one descriptor.**  What is generated under one name is generated under any other,
    file by file, with the same code below the headers. -/
theorem generate_twins {r : Request} {out : Output} (h : r.generate = .ok out) (t : String) :
    ∃ out', ({ r with source := t } : Request).generate = .ok out' ∧
      out'.statistics = out.statistics ∧ out.files ≠ [] ∧
      List.Forall₂ (Twins r.source t) out.files out'.files := by
  obtain ⟨files, hf, h⟩ := bind_eq_ok.mp h
  cases h
  obtain ⟨built, hb, hf⟩ := bind_eq_ok.mp hf
  obtain ⟨index, hi, hf⟩ := bind_eq_ok.mp hf
  cases hf
  obtain ⟨built', hb', hbuilt⟩ := builderFiles_twin (fun S hS => className_of_mem_plans hS) hb t
  obtain ⟨index', hi', hindex⟩ := indexFile_twin hi t
  have hfiles : filesOf r.support t r.batch.plans = .ok (built' ++ [index']) :=
    bind_eq_ok.mpr ⟨built', hb', bind_eq_ok.mpr ⟨index', hi', rfl⟩⟩
  refine ⟨_, bind_eq_ok.mpr ⟨_, hfiles, rfl⟩, rfl, by simp, ?_⟩
  exact List.rel_append hbuilt (.cons hindex .nil)

/-- **What the name of the descriptor reaches.**  If anything is generated, it is generated under
    all names of the descriptor, as files of the same names.  Under two names their texts without
    remarks are the same exactly if the names have the same strays; and each file begins with a
    header, with a title on one line, that is made of remarks exactly if the name has no strays. -/
theorem source_remarked_iff (r : Request) (out : Output) (h : r.generate = .ok out) (s t : String) :
    ∃ outS outT, ({ r with source := s } : Request).generate = .ok outS ∧
      ({ r with source := t } : Request).generate = .ok outT ∧
      outS.statistics = outT.statistics ∧
      outS.files.map (·.name) = outT.files.map (·.name) ∧
      (outS.files.map (fun f => withoutRemarks f.text)
          = outT.files.map (fun f => withoutRemarks f.text) ↔ strays s = strays t) ∧
      (∀ f ∈ outS.files, ∃ title body, '\n' ∉ title.toList ∧
        f.text = Header.text { title, source := s } ++ body ∧
        (Header.AllRemarks { title, source := s } ↔ strays s = [])) := by
  obtain ⟨outS, hS, -, -, -⟩ := generate_twins h s
  obtain ⟨outT, hT, hstatistics, hne, htwins⟩ := generate_twins hS t
  refine ⟨outS, outT, hS, hT, hstatistics.symm, ?_, withoutRemarks_files_iff htwins hne, ?_⟩
  · exact map_eq_map_of_forall₂ htwins fun f f' hf => hf.name
  · intro f hf
    obtain ⟨f', -, hfile⟩ := exists_right_of_mem htwins hf
    obtain ⟨title, body, htitle, htext, -⟩ := hfile.text
    exact ⟨title, body, htitle, htext, allRemarks_iff htitle⟩

theorem source_remarked_iff_likes :
    ∃ out outS outT, likes.generate = .ok out ∧
      ({ likes with source := "model.json" } : Request).generate = .ok outS ∧
      ({ likes with source := "old\n//! model.json" } : Request).generate = .ok outT ∧
      outS.files.map (·.name) = outT.files.map (·.name) ∧
      outS.files.map (fun f => withoutRemarks f.text)
        = outT.files.map (fun f => withoutRemarks f.text) ∧
      (∀ f ∈ outS.files, ∃ title body,
        f.text = Header.text { title, source := "model.json" } ++ body ∧
        Header.AllRemarks { title, source := "model.json" }) := by
  obtain ⟨out, h⟩ := exists_of_isOk (r := likes) (by decide +kernel)
  obtain ⟨outS, outT, hS, hT, -, hnames, htexts, hheaders⟩ :=
    source_remarked_iff likes out h "model.json" "old\n//! model.json"
  refine ⟨out, outS, outT, h, hS, hT, hnames, htexts.mpr (by decide +kernel), fun f hf => ?_⟩
  obtain ⟨title, body, -, htext, hremarks⟩ := hheaders f hf
  exact ⟨title, body, htext, hremarks.mpr (by decide +kernel)⟩

/-- A name that goes on behind a line break as code does: the two runs are told apart without their
    remarks, and the second line of the name is a line of every file. -/
theorem source_breaks_out :
    ∃ out out', ({ likes with source := "model.json" } : Request).generate = .ok out ∧
      ({ likes with source := "model.json\nfn f() \x7b\x7d" } : Request).generate = .ok out' ∧
      out.files.map (fun f => withoutRemarks f.text)
        ≠ out'.files.map (fun f => withoutRemarks f.text) ∧
      ∀ f ∈ out'.files, "fn f() \x7b\x7d".toList ∈ linesOf f.text.toList ∧
        isRemark "fn f() \x7b\x7d".toList = false := by
  obtain ⟨out, h⟩ := exists_of_isOk (r := { likes with source := "model.json" }) (by decide +kernel)
  obtain ⟨out', h', -, hne, htwins⟩ := generate_twins h "model.json\nfn f() \x7b\x7d"
  refine ⟨out, out', h, h', fun hsame => ?_, fun f hf => ?_⟩
  · exact absurd ((withoutRemarks_files_iff htwins hne).mp hsame) (by decide +kernel)
  · obtain ⟨_, -, htwin⟩ := exists_left_of_mem htwins hf
    exact ⟨htwin.mem_linesOf (by decide +kernel), by decide +kernel⟩

end FluentBuilders.Generation
