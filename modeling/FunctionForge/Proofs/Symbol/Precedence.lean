import FunctionForge.Proofs.List
import FunctionForge.Proofs.Symbol.Table

/-!
# What comes first when a name is resolved

A table is what it was at first and every change to it since. What it knows and what it imported can
be told from these changes, and so can what a written name refers to: a dotted name to itself, a
simple name to the latest import that ends in it, then to a name of its own package, then to a name
of a default import.
-/

namespace FunctionForge

namespace Text

/-- Whether a segment is all of a name, or stands behind a dot at its end. -/
def EndsIn (name segment : String) : Prop :=
  name = segment ∨ ∃ before, name = before ++ "." ++ segment

theorem lastSegment_append (before : String) {segment : String} (h : ¬isDotted segment) :
    lastSegment (before ++ "." ++ segment) = segment := by
  have hsegments : splitAt '.' (before ++ "." ++ segment).toList =
      splitAt '.' before.toList ++ [segment.toList] := by
    rw [isDotted_iff] at h
    rw [String.append_assoc, String.toList_append, String.toList_append]
    change splitAt '.' (before.toList ++ '.' :: segment.toList) = _
    rw [splitAt_append_cons, splitAt_of_not_mem h]
  simp only [lastSegment, hsegments, List.getLast_concat, String.ofList_toList]

theorem exists_eq_append_lastSegment {name : String} (h : isDotted name) :
    ∃ before, name = before ++ "." ++ lastSegment name := by
  -- The last dot is the first one of the reversed name.
  obtain ⟨last, first, hname, hplain⟩ :=
    List.eq_append_cons_of_mem (List.mem_reverse.2 ((isDotted_iff name).1 h))
  have hsplit : name = String.ofList first.reverse ++ "." ++ String.ofList last.reverse := by
    apply String.toList_inj.1
    rw [← List.reverse_reverse name.toList, hname]
    simp
  have hlast : ¬isDotted (String.ofList last.reverse) := by
    rwa [isDotted_iff, String.toList_ofList, List.mem_reverse]
  have hsegment : lastSegment name = String.ofList last.reverse := by
    rw [hsplit]
    exact lastSegment_append _ hlast
  exact ⟨String.ofList first.reverse, hsegment ▸ hsplit⟩

theorem lastSegment_eq_iff {name segment : String} (h : ¬isDotted segment) :
    lastSegment name = segment ↔ EndsIn name segment := by
  constructor
  · rintro rfl
    by_cases hdotted : isDotted name
    · exact .inr (exists_eq_append_lastSegment hdotted)
    · exact .inl (lastSegment_of_not_dotted hdotted).symm
  · rintro (rfl | ⟨before, rfl⟩)
    · exact lastSegment_of_not_dotted h
    · exact lastSegment_append before h

end Text

namespace SymbolTable

/-- A table before any change, with the standard declarations or with nothing. -/
def initial (withStandard : Bool) (package : String) : SymbolTable :=
  if withStandard then standard package else empty package

/-- A change to a table. -/
inductive Change where
  | declare (name : String)
  | addImport (name : String)
  deriving DecidableEq, Repr

namespace Change

/-- The name that a change makes known. -/
def name : Change → String
  | declare name => name
  | addImport name => name

/-- The name that a change imports. -/
def imported? : Change → Option String
  | declare _ => none
  | addImport name => some name

def apply (table : SymbolTable) : Change → SymbolTable
  | declare name => table.declare name
  | addImport name => table.addImport name

end Change

/-- The table after changes, the first one first. -/
def after (table : SymbolTable) (changes : List Change) : SymbolTable :=
  changes.foldl Change.apply table

/-- What a written name refers to in a package, if some names are known and some were imported, the
latest one last. Each rule stands behind the ones above it. -/
inductive Refers (known : String → Prop) (imported : List String) (package written : String) :
    Option String → Prop
  | dotted (hdotted : '.' ∈ written.toList) (hknown : known written) :
      Refers known imported package written (some written)
  | unknown (hdotted : '.' ∈ written.toList) (hunknown : ¬known written) :
      Refers known imported package written none
  | imported {before later : List String} {name : String} (hplain : '.' ∉ written.toList)
      (himported : imported = before ++ name :: later) (hends : Text.EndsIn name written)
      (hlatest : ∀ other ∈ later, ¬Text.EndsIn other written) :
      Refers known imported package written (some name)
  | ownPackage (hplain : '.' ∉ written.toList)
      (hnotImported : ∀ name ∈ imported, ¬Text.EndsIn name written)
      (hknown : known (Text.qualify package written)) :
      Refers known imported package written (some (Text.qualify package written))
  | defaultImport {before later : List String} {default : String} (hplain : '.' ∉ written.toList)
      (hnotImported : ∀ name ∈ imported, ¬Text.EndsIn name written)
      (hnotOwn : ¬known (Text.qualify package written))
      (hdefault : Symbol.defaultImports = before ++ default :: later)
      (hknown : known (Text.qualify default written))
      (hfirst : ∀ earlier ∈ before, ¬known (Text.qualify earlier written)) :
      Refers known imported package written (some (Text.qualify default written))
  | nothing (hplain : '.' ∉ written.toList)
      (hnotImported : ∀ name ∈ imported, ¬Text.EndsIn name written)
      (hnotOwn : ¬known (Text.qualify package written))
      (hnotDefault : ∀ default ∈ Symbol.defaultImports, ¬known (Text.qualify default written)) :
      Refers known imported package written none

/-- Imports as a table keeps them, the latest first. -/
def importsOf (imported : List String) : List (String × String) :=
  (imported.map fun name => (Text.lastSegment name, name)).reverse

theorem importsOf_cons (name : String) (rest : List String) :
    importsOf (name :: rest) = importsOf rest ++ [(Text.lastSegment name, name)] := by
  rw [importsOf, List.map_cons, List.reverse_cons, ← importsOf]

section Resolving

variable {table : SymbolTable} {imported : List String} {written package simple name : String}

theorem lookup_importsOf (imported : List String) (written : String) :
    (importsOf imported).lookup written =
      imported.reverse.find? fun name => written == Text.lastSegment name := by
  rw [importsOf, ← List.map_reverse]
  induction imported.reverse with
  | nil => rfl
  | cons name rest ih => rw [List.map_cons, List.lookup_cons, List.find?_cons, ih]

theorem eq_lastSegment_iff (hplain : '.' ∉ written.toList) (name : String) :
    written = Text.lastSegment name ↔ Text.EndsIn name written := by
  rw [eq_comm]
  apply Text.lastSegment_eq_iff
  exact mt (Text.isDotted_iff written).1 hplain

theorem lookup_importsOf_eq_some_iff (hplain : '.' ∉ written.toList) :
    (importsOf imported).lookup written = some name ↔ Text.EndsIn name written ∧
      ∃ before later, imported = before ++ name :: later ∧
        ∀ other ∈ later, ¬Text.EndsIn other written := by
  simp only [lookup_importsOf, List.find?_eq_some_iff_append, beq_iff_eq,
    eq_lastSegment_iff hplain, List.reverse_eq_iff, List.reverse_append, List.reverse_cons, List.append_assoc,
    List.singleton_append, Bool.not_eq_true', beq_eq_false_iff_ne, ne_eq]
  refine and_congr_right fun _ => ⟨?_, ?_⟩
  · rintro ⟨later, before, hsplit, hlatest⟩
    exact ⟨before.reverse, later.reverse, hsplit,
      fun other hother => hlatest other (List.mem_reverse.1 hother)⟩
  · rintro ⟨before, later, hsplit, hlatest⟩
    exact ⟨later.reverse, before.reverse, by simpa using hsplit,
      fun other hother => hlatest other (List.mem_reverse.1 hother)⟩

theorem lookup_importsOf_eq_none_iff (hplain : '.' ∉ written.toList) :
    (importsOf imported).lookup written = none ↔
      ∀ name ∈ imported, ¬Text.EndsIn name written := by
  simp only [lookup_importsOf, List.find?_eq_none, List.mem_reverse, beq_iff_eq,
    eq_lastSegment_iff hplain]

theorem inPackage?_eq_none_iff :
    table.inPackage? package simple = none ↔ ¬table.isKnown (Text.qualify package simple) := by
  rw [inPackage?]
  split
  · next hknown => simp [hknown]
  · next hunknown => simp [hunknown]

theorem inPackage?_of_isKnown (h : table.isKnown (Text.qualify package simple)) :
    table.inPackage? package simple = some (Text.qualify package simple) := by
  rw [inPackage?, if_pos h]

theorem resolve?_of_plain (himports : table.imports = importsOf imported)
    (hplain : '.' ∉ written.toList) :
    table.resolve? written = ((importsOf imported).lookup written).or
      ((table.inPackage? table.package written).or
        (Symbol.defaultImports.findSome? fun package => table.inPackage? package written)) := by
  rw [resolve?, if_neg (mt (Text.isDotted_iff written).1 hplain), himports]

/-- A table that keeps its imports with the latest first resolves names by precedence. -/
theorem resolve?_eq_of_refers (himports : table.imports = importsOf imported)
    {result : Option String}
    (h : Refers (fun name => table.isKnown name) imported table.package written result) :
    table.resolve? written = result := by
  have hdotted := Text.isDotted_iff written
  cases h with
  | dotted hdot hknown => exact resolve?_of_dotted (hdotted.2 hdot) hknown
  | unknown hdot hunknown => rw [resolve?, if_pos (hdotted.2 hdot), if_neg hunknown]
  | imported hplain himported hends hlatest =>
    have hlookup := (lookup_importsOf_eq_some_iff hplain).2 ⟨hends, _, _, himported, hlatest⟩
    rw [resolve?_of_plain himports hplain, hlookup, Option.some_or]
  | ownPackage hplain hnotImported hknown =>
    have hlookup := (lookup_importsOf_eq_none_iff hplain).2 hnotImported
    rw [resolve?_of_plain himports hplain, hlookup, Option.none_or,
      inPackage?_of_isKnown hknown, Option.some_or]
  | defaultImport hplain hnotImported hnotOwn hdefault hknown hfirst =>
    have hlookup := (lookup_importsOf_eq_none_iff hplain).2 hnotImported
    rw [resolve?_of_plain himports hplain, hlookup, Option.none_or,
      inPackage?_eq_none_iff.2 hnotOwn, Option.none_or, List.findSome?_eq_some_iff]
    exact ⟨_, _, _, hdefault, inPackage?_of_isKnown hknown,
      fun earlier hmem => inPackage?_eq_none_iff.2 (hfirst earlier hmem)⟩
  | nothing hplain hnotImported hnotOwn hnotDefault =>
    have hlookup := (lookup_importsOf_eq_none_iff hplain).2 hnotImported
    rw [resolve?_of_plain himports hplain, hlookup, Option.none_or,
      inPackage?_eq_none_iff.2 hnotOwn, Option.none_or, List.findSome?_eq_none_iff]
    exact fun default hmem => inPackage?_eq_none_iff.2 (hnotDefault default hmem)

end Resolving

/-- There is always a rule that applies. -/
theorem exists_refers (known : String → Prop) (imported : List String) (package written : String) :
    ∃ result, Refers known imported package written result := by
  by_cases hdotted : '.' ∈ written.toList
  · by_cases hknown : known written
    · exact ⟨_, .dotted hdotted hknown⟩
    · exact ⟨_, .unknown hdotted hknown⟩
  by_cases hnotImported : ∀ name ∈ imported, ¬Text.EndsIn name written
  · by_cases hown : known (Text.qualify package written)
    · exact ⟨_, .ownPackage hdotted hnotImported hown⟩
    by_cases hnotDefault : ∀ default ∈ Symbol.defaultImports, ¬known (Text.qualify default written)
    · exact ⟨_, .nothing hdotted hnotImported hown hnotDefault⟩
    · obtain ⟨before, default, later, hdefault, hknown, hfirst⟩ := exists_first hnotDefault
      exact ⟨_, .defaultImport hdotted hnotImported hown hdefault hknown hfirst⟩
  · -- The latest import is the first one from behind.
    have hreversed : ¬∀ name ∈ imported.reverse, ¬Text.EndsIn name written := by
      simpa only [List.mem_reverse] using hnotImported
    obtain ⟨later, name, before, hsplit, hends, hlatest⟩ := exists_first hreversed
    have himported : imported = before.reverse ++ name :: later.reverse := by
      rw [← List.reverse_reverse imported, hsplit]
      simp
    exact ⟨_, .imported hdotted himported hends fun other hother =>
      hlatest other (List.mem_reverse.1 hother)⟩

theorem resolve?_eq_iff_refers {table : SymbolTable} {imported : List String}
    (himports : table.imports = importsOf imported) (written : String) (result : Option String) :
    table.resolve? written = result ↔
      Refers (fun name => table.isKnown name) imported table.package written result := by
  constructor
  · rintro rfl
    obtain ⟨result, hresult⟩ :=
      exists_refers (fun name => table.isKnown name) imported table.package written
    rwa [resolve?_eq_of_refers himports hresult]
  · exact resolve?_eq_of_refers himports

section After

variable (table : SymbolTable) (changes : List Change)

theorem package_after : (table.after changes).package = table.package := by
  induction changes generalizing table with
  | nil => rfl
  | cons change rest ih =>
    rw [after, List.foldl_cons, ← after, ih]
    cases change <;> rfl

theorem isKnown_after (name : String) : (table.after changes).isKnown name ↔
    name ∈ changes.map Change.name ∨ table.isKnown name := by
  induction changes generalizing table with
  | nil => simp [after]
  | cons change rest ih =>
    have hchange : (change.apply table).isKnown name ↔
        name = change.name ∨ table.isKnown name := by
      cases change <;> simp [Change.apply, Change.name]
    rw [after, List.foldl_cons, ← after, ih, hchange, List.map_cons, List.mem_cons, or_left_comm,
      or_assoc]

/-- Imports are kept with the latest first. -/
theorem imports_after : (table.after changes).imports =
    importsOf (changes.filterMap Change.imported?) ++ table.imports := by
  induction changes generalizing table with
  | nil => rfl
  | cons change rest ih =>
    rw [after, List.foldl_cons, ← after, ih]
    cases change with
    | declare name => rw [List.filterMap_cons_none (f := Change.imported?) rfl]; rfl
    | addImport name =>
      rw [List.filterMap_cons_some (f := Change.imported?) rfl, importsOf_cons, List.append_assoc]
      rfl

theorem Linked.after {table : SymbolTable} (h : table.Linked) (changes : List Change) :
    (table.after changes).Linked := by
  induction changes generalizing table with
  | nil => exact h
  | cons change rest ih =>
    apply ih
    cases change with
    | declare name => exact h.declare name
    | addImport name => exact h.addImport name

end After

theorem isKnown_initial (withStandard : Bool) (package name : String) :
    (initial withStandard package).isKnown name ↔
      withStandard = true ∧ name ∈ Symbol.standardDeclarations := by
  cases withStandard <;> simp [initial, isKnown, standard, empty]

theorem package_initial (withStandard : Bool) (package : String) :
    (initial withStandard package).package = package := by
  cases withStandard <;> rfl

theorem imports_initial (withStandard : Bool) (package : String) :
    (initial withStandard package).imports = [] := by
  cases withStandard <;> rfl

/-- After any changes, names resolve by precedence among the names that the changes made known and
the names that they imported. What a name resolves to is known, and resolves to itself. -/
theorem resolves_by_precedence (withStandard : Bool) (package : String) (changes : List Change)
    (written : String) :
    let table := (initial withStandard package).after changes
    let known name := name ∈ changes.map Change.name ∨
      withStandard = true ∧ name ∈ Symbol.standardDeclarations
    let imported := changes.filterMap Change.imported?
    (∀ result, table.resolve? written = result ↔ Refers known imported package written result) ∧
    ∀ qualified, table.resolve? written = some qualified →
      known qualified ∧ table.isKnown qualified ∧ table.resolve? qualified = some qualified := by
  intro table known imported
  have hknown (name : String) : table.isKnown name ↔ known name := by
    rw [isKnown_after, isKnown_initial]
  have hlinked : table.Linked := (Linked.of_imports_eq_nil (imports_initial _ _)).after changes
  have himports : table.imports = importsOf imported := by
    rw [imports_after, imports_initial, List.append_nil]
  have hpackage : table.package = package := by rw [package_after, package_initial]
  refine ⟨fun result => ?_, fun qualified hqualified => ?_⟩
  · rw [resolve?_eq_iff_refers himports, hpackage]
    simp only [hknown]
  · have hfound := hlinked.isKnown_of_resolve? hqualified
    exact ⟨(hknown qualified).1 hfound, hfound, hlinked.resolve?_resolved hqualified⟩

/-- An import that came last hides one of the same last segment and the name of the package. -/
example : (((initial true "app").after [.addImport "java.util.List", .declare "app.List",
    .addImport "lib.List"]).resolve? "List") = some "lib.List" := by decide +kernel

end SymbolTable

end FunctionForge
