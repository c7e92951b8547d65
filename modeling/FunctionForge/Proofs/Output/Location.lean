import FunctionForge.Output.Sink
import FunctionForge.Proofs.Manifest.Name
import FunctionForge.Proofs.Path

/-!
# Paths that only lead down

The path of a location is made of names, one for each segment of the package and one for the file.
Behind another path such a path adds its names and changes nothing of what is in front of it. The
names tell the package and the file.
-/

namespace FunctionForge

namespace Path

/-- A name that is one step down, whatever it is joined to. -/
structure IsFileName (name : String) : Prop where
  ne_empty : name ≠ ""
  ne_current : name ≠ "."
  ne_parent : name ≠ ".."
  noSlash : '/' ∉ name.toList

variable {base path : Path} {names : List String} {name : String}

theorem IsFileName.not_isAbsolute (h : IsFileName name) : (Path.mk name).isAbsolute = false := by
  refine decide_eq_false fun hhead => h.noSlash ?_
  exact List.mem_of_mem_head? (Option.mem_def.2 hhead)

theorem innerComponent?_of_ne {piece : List Char} (hempty : piece ≠ []) (hcurrent : piece ≠ ['.'])
    (hparent : piece ≠ ['.', '.']) :
    innerComponent? piece = some (.name (String.ofList piece)) := by
  rw [innerComponent?.eq_def]
  split <;> simp_all

theorem IsFileName.pieces (h : IsFileName name) : (Path.mk name).pieces = [name.toList] :=
  Text.splitAt_of_not_mem h.noSlash

theorem IsFileName.toList_ne (h : IsFileName name) :
    name.toList ≠ [] ∧ name.toList ≠ ['.'] ∧ name.toList ≠ ['.', '.'] :=
  ⟨mt String.toList_eq_nil_iff.1 h.ne_empty, fun heq => h.ne_current (String.toList_inj.1 heq),
    fun heq => h.ne_parent (String.toList_inj.1 heq)⟩

theorem IsFileName.endsInName (h : IsFileName name) : (Path.mk name).EndsInName :=
  ⟨name.toList, by rw [h.pieces]; rfl, h.toList_ne⟩

theorem IsFileName.components (h : IsFileName name) :
    (Path.mk name).components = [.name name] := by
  obtain ⟨hempty, hcurrent, hparent⟩ := h.toList_ne
  rw [Path.components, h.pieces]
  simp only [h.not_isAbsolute, Bool.false_eq_true, if_false]
  rw [if_neg hcurrent, innerComponent?_of_ne hempty hcurrent hparent, String.ofList_toList]
  rfl

/-! ### Joining -/

/-- Only the first piece of a path may be special: it is empty in front of the root, and a dot there
counts. -/
theorem components_cases (path : Path) :
    (path.isAbsolute = true ∧ ∃ rest, path.pieces = [] :: rest ∧
      path.components = .root :: rest.filterMap innerComponent?) ∨
    (path.isAbsolute = false ∧ ∃ rest, path.pieces = ['.'] :: rest ∧
      path.components = .current :: rest.filterMap innerComponent?) ∨
    path.isAbsolute = false ∧ path.components = path.pieces.filterMap innerComponent? := by
  rw [components]
  cases habsolute : path.isAbsolute with
  | true =>
    obtain ⟨text, htext⟩ := List.head?_eq_some_iff.1 (of_decide_eq_true habsolute)
    have hpieces : path.pieces = [] :: Text.splitAt '/' text := by
      rw [pieces, htext, Text.splitAt, if_pos rfl]
    rw [hpieces]
    exact .inl ⟨rfl, _, rfl, rfl⟩
  | false =>
    cases hpieces : path.pieces with
    | nil => exact absurd hpieces path.pieces_ne_nil
    | cons first rest =>
      by_cases hcurrent : first = ['.']
      · rw [hcurrent]
        exact .inr (.inl ⟨rfl, rest, rfl, rfl⟩)
      · refine .inr (.inr ⟨rfl, ?_⟩)
        simp only [Bool.false_eq_true, if_false, if_neg hcurrent]
        cases hfirst : innerComponent? first with
        | none => rw [List.filterMap_cons_none hfirst]; rfl
        | some component => rw [List.filterMap_cons_some hfirst]; rfl

/-- In a path of names no piece is special. -/
theorem components_of_names (h : path.components = names.map .name) :
    path.isAbsolute = false ∧ path.components = path.pieces.filterMap innerComponent? := by
  obtain ⟨-, rest, -, hroot⟩ | ⟨-, rest, -, hcurrent⟩ | hplain := path.components_cases
  · rw [hroot] at h
    cases names <;> cases h
  · rw [hcurrent] at h
    cases names <;> cases h
  · exact hplain

/-- A path that is joined stands behind the other one and a slash, which may be there already. -/
theorem toList_join (hne : base.text ≠ "") (hrelative : path.isAbsolute = false) :
    ∃ front back, base.text.toList = front ++ back ∧ (back = [] ∨ back = ['/']) ∧
      (base.join path).text.toList = front ++ '/' :: path.text.toList := by
  rw [join, hrelative, if_neg Bool.false_ne_true]
  by_cases hslash : base.text.toList.getLast? = some '/'
  · obtain ⟨front, hfront⟩ := List.getLast?_eq_some_iff.1 hslash
    refine ⟨front, ['/'], hfront, .inr rfl, ?_⟩
    rw [if_pos (by simp [hslash]), String.toList_append, hfront, List.append_assoc]
    rfl
  · refine ⟨base.text.toList, [], (List.append_nil _).symm, .inl rfl, ?_⟩
    rw [if_neg (by simp [hne, hslash]), String.toList_append, String.toList_append,
      List.append_assoc]
    rfl

theorem isAbsolute_join (hne : base.text ≠ "") (hrelative : path.isAbsolute = false) :
    (base.join path).isAbsolute = base.isAbsolute := by
  obtain ⟨front, back, hbase, hback, hjoin⟩ := toList_join hne hrelative
  have hhead : (front ++ '/' :: path.text.toList).head? = (front ++ back).head? := by
    cases front with
    | cons c rest => rfl
    | nil =>
      obtain rfl | rfl := hback
      · exact absurd (String.toList_eq_nil_iff.1 hbase) hne
      · rfl
  rw [isAbsolute, isAbsolute, hjoin, hbase, hhead]

/-- A joined path has the pieces of both, apart from the empty one that a slash leaves behind. -/
theorem exists_pieces_join (hne : base.text ≠ "") (hrelative : path.isAbsolute = false) :
    ∃ first more back, (back = [] ∨ back = [[]]) ∧ base.pieces = first :: (more ++ back) ∧
      (base.join path).pieces = first :: (more ++ path.pieces) := by
  obtain ⟨front, back, hbase, hback, hjoin⟩ := toList_join hne hrelative
  obtain ⟨first, more, hpieces⟩ := List.exists_cons_of_ne_nil (Text.splitAt_ne_nil '/' front)
  have hjoined : (base.join path).pieces = first :: (more ++ path.pieces) := by
    rw [pieces, hjoin, Text.splitAt_append_cons, hpieces]
    rfl
  obtain rfl | rfl := hback
  · refine ⟨first, more, [], .inl rfl, ?_, hjoined⟩
    rw [pieces, hbase, List.append_nil, hpieces, List.append_nil]
  · refine ⟨first, more, [[]], .inr rfl, ?_, hjoined⟩
    rw [pieces, hbase, Text.splitAt_append_cons, hpieces]
    rfl

/-- Joining a path of names adds them at the end. -/
theorem components_join (base : Path) (h : path.components = names.map .name) :
    (base.join path).components = base.components ++ names.map .name := by
  obtain ⟨hrelative, hnames⟩ := components_of_names h
  by_cases hne : base.text = ""
  · have hbase : base.components = [] := by
      rw [show base = ⟨""⟩ from congrArg Path.mk hne]
      rfl
    have hjoin : base.join path = path := by
      rw [join, hrelative, if_neg Bool.false_ne_true, if_pos (by simp [hne]), hne,
        String.empty_append]
    rw [hjoin, hbase, h, List.nil_append]
  · obtain ⟨first, more, back, hback, hbase, hjoin⟩ := exists_pieces_join hne hrelative
    have hnothing : back.filterMap innerComponent? = [] := by
      obtain rfl | rfl := hback <;> rfl
    rw [components, components, hjoin, hbase, isAbsolute_join hne hrelative]
    simp only [List.filterMap_append, hnothing, ← hnames, h, List.append_nil, List.append_assoc]

theorem components_foldl_join {segments : List String} (h : ∀ name ∈ segments, IsFileName name)
    (base : Path) : (segments.foldl (fun (path : Path) segment => path.join ⟨segment⟩)
      base).components = base.components ++ segments.map .name := by
  induction segments generalizing base with
  | nil => exact (List.append_nil _).symm
  | cons name rest ih =>
    obtain ⟨hname, hrest⟩ := List.forall_mem_cons.1 h
    have hjoin : (base.join ⟨name⟩).components = base.components ++ [name].map .name :=
      components_join base hname.components
    rw [List.foldl_cons, ih hrest, hjoin, List.append_assoc]
    rfl

end Path

namespace Location

/-- The directories of a package: its segments, of which the empty one has none. -/
def directories (package : String) : List String :=
  if package = "" then [] else Text.segments package

/-- The names of the path of a location. -/
def names (location : Location) : List String :=
  directories location.package ++ [location.file ++ "." ++ location.extension]

theorem isFileName_of_isIdentifier {segment : List Char} (h : Name.IsIdentifier segment) :
    Path.IsFileName (String.ofList segment) := by
  have hslash : '/' ∉ (String.ofList segment).toList := by
    rw [String.toList_ofList]
    exact h.slash_not_mem
  have hdot : '.' ∉ (String.ofList segment).toList := by
    rw [String.toList_ofList]
    exact h.dot_not_mem
  obtain ⟨first, rest, rfl, -⟩ := h
  refine ⟨fun heq => ?_, fun heq => hdot (heq ▸ by decide), fun heq => hdot (heq ▸ by decide),
    hslash⟩
  rw [← String.toList_eq_nil_iff, String.toList_ofList] at heq
  cases heq

theorem isFileName_withExtension {file : String} (h : Name.IsIdentifier file.toList) :
    Path.IsFileName (file ++ "." ++ standardExtension) := by
  have htext : (file ++ "." ++ standardExtension).toList = file.toList ++ ['.', 'k', 't'] := by
    simp [standardExtension]
  have hlength : 2 < (file ++ "." ++ standardExtension).toList.length := by
    rw [htext, List.length_append]
    exact Nat.lt_add_left _ (by decide)
  refine ⟨?_, ?_, ?_, by simp [htext, h.slash_not_mem]⟩ <;>
  · intro heq
    rw [heq] at hlength
    exact absurd hlength (by decide)

section Names

variable {package file : String} (hpackage : Name.IsDotted package)
  (hfile : Name.IsIdentifier file.toList)

include hpackage in
theorem isFileName_of_mem_directories : ∀ name ∈ directories package, Path.IsFileName name := by
  rw [directories]
  split
  · exact fun name hmem => absurd hmem List.not_mem_nil
  · next hne =>
    exact List.forall_mem_map.2 fun segment hmem =>
      isFileName_of_isIdentifier (hpackage.isIdentifier hne segment hmem)

include hpackage in
theorem filter_segments : (Text.segments package).filter (· ≠ "") = directories package := by
  have hall := isFileName_of_mem_directories hpackage
  rw [directories] at hall ⊢
  split
  · next hempty =>
    rw [hempty]
    rfl
  · next hne =>
    rw [if_neg hne] at hall
    exact List.filter_eq_self.2 fun name hmem => decide_eq_true (hall name hmem).ne_empty

include hpackage hfile

theorem isFileName_of_mem_names : ∀ name ∈ (new package file).names, Path.IsFileName name :=
  List.forall_mem_append.2 ⟨isFileName_of_mem_directories hpackage,
    List.forall_mem_singleton.2 (isFileName_withExtension hfile)⟩

theorem components_relativePath :
    (new package file).relativePath.components = (new package file).names.map .name := by
  have hlast : (Path.mk (file ++ "." ++ standardExtension)).components =
      [file ++ "." ++ standardExtension].map .name :=
    (isFileName_withExtension hfile).components
  have hroot : (Path.mk "").components = [] := rfl
  simp only [relativePath, new, filter_segments hpackage]
  rw [Path.components_join _ hlast,
    Path.components_foldl_join (isFileName_of_mem_directories hpackage), hroot, names,
    List.map_append]
  rfl

end Names

theorem segments_inj {first second : String} (h : Text.segments first = Text.segments second) :
    first = second := by
  have hsplit : Text.splitAt '.' first.toList = Text.splitAt '.' second.toList :=
    (List.map_inj_right fun _ _ => String.ofList_inj.1).1 h
  rw [Text.splitAt_eq_splitOn, Text.splitAt_eq_splitOn] at hsplit
  have hjoined := congrArg (['.'].intercalate ·) hsplit
  simp only [List.intercalate_splitOn] at hjoined
  exact String.toList_inj.1 hjoined

theorem directories_inj {first second : String} (h : directories first = directories second) :
    first = second := by
  have hsegments (package : String) : Text.segments package ≠ [] :=
    mt List.map_eq_nil_iff.1 (Text.splitAt_ne_nil '.' package.toList)
  rw [directories, directories] at h
  split at h <;> split at h
  · next hfirst hsecond => rw [hfirst, hsecond]
  · exact absurd h.symm (hsegments second)
  · exact absurd h (hsegments first)
  · exact segments_inj h

/-- The names tell the package and the file. -/
theorem names_inj {package file package' file' : String}
    (h : (new package file).names = (new package' file').names) :
    package = package' ∧ file = file' := by
  obtain ⟨hdirectories, hlast⟩ := List.append_inj' h rfl
  refine ⟨directories_inj hdirectories, ?_⟩
  have hname : file ++ "." ++ standardExtension = file' ++ "." ++ standardExtension :=
    List.singleton_inj.1 hlast
  simpa using hname

end Location

end FunctionForge
