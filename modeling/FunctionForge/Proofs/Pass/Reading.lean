import FunctionForge.Proofs.Function.Legible
import FunctionForge.Proofs.Pass.Fold

/-!
# Reading a generated file

A pass that succeeds has sent the texts of all its functions, and the blank lines of the file part
them. So what was generated can be read off the file, whatever it was generated from.
-/

namespace FunctionForge

open Text

/-- The names of properties and functions are identifiers, and what names refer to are dotted
identifiers. -/
structure CompilationUnit.Named (unit : CompilationUnit) : Prop where
  functions : ∀ declaration ∈ unit.annotatedWith functionAnnotation, ∀ name,
    declaration.functionName = .ok name → TypeExpr.IsSegment name.toList
  properties : ∀ declaration ∈ unit.annotatedWith functionAnnotation,
    ∀ property ∈ declaration.properties, TypeExpr.IsSegment property.name.toList
  resolver : unit.resolver.FindsNames

def SinkEvent.text? : SinkEvent → Option String
  | .written text => some text
  | _ => none

/-- The text that a sink was sent. -/
def SinkEvent.sentText (events : List SinkEvent) : String :=
  String.join (events.filterMap SinkEvent.text?)

namespace Declaration

variable {resolver : Resolver} {options : Options} {declaration : Declaration}

theorem mem_said_of_returned? {name type : String}
    (h : declaration.returned? resolver options = some (name, type)) : (name, some type) ∈
      declaration.properties.map (Property.said resolver options declaration.qualifiedName) := by
  obtain ⟨property, hfind, htype⟩ := Option.bind_eq_some_iff.1 h
  obtain ⟨type', hsaid, hpair⟩ := Option.map_eq_some_iff.1 htype
  cases hpair
  refine List.mem_map.2 ⟨property, List.mem_of_find?_eq_some hfind, Prod.ext rfl hsaid⟩

theorem legible_summary (hresolver : resolver.FindsNames)
    (hname : ∀ name, declaration.functionName = .ok name → TypeExpr.IsSegment name.toList)
    (hproperties : ∀ property ∈ declaration.properties, TypeExpr.IsSegment property.name.toList)
    {summary : FunctionSummary} (h : declaration.summary? resolver options = some summary) :
    summary.Legible := by
  rw [summary?] at h
  split at h
  · next name _ hfunction =>
    cases h
    refine ⟨hname name hfunction, List.forall_mem_map.2 hproperties,
      List.forall_mem_map.2 fun property _ type htype => ?_, fun name type => mem_said_of_returned?⟩
    refine Property.holds_renderedType Rendering.carries_oneLine
      (fun written _ qualified hresolves => ?_) htype
    exact TypeExpr.oneLine_of_isName (hresolver written qualified hresolves)
  · cases h

end Declaration

namespace Pass

variable {unit unit' : CompilationUnit} {options : Options}

theorem legible_summaries (h : unit.Named) (options : Options) :
    ∀ summary ∈ summaries unit.resolver options (unit.annotatedWith functionAnnotation),
      summary.Legible := by
  intro summary hsummary
  obtain ⟨declaration, hmem, hsome⟩ := List.mem_filterMap.1 hsummary
  exact Declaration.legible_summary h.resolver (h.functions declaration hmem)
    (h.properties declaration hmem) hsome

/-- A pass that succeeds has sent the texts of all its functions. -/
theorem sent_of_ok {σ : Type} {sink : Sink (StateM σ)} {location : Location} {start : σ}
    {outcome : Outcome} {events : List SinkEvent} {log : DiagnosticLog} {final : σ}
    (h : ((run sink.recorded unit options location).run []).run start =
      (((.ok outcome, log), events), final)) :
    (∀ declaration ∈ unit.annotatedWith functionAnnotation,
      declaration.fatal? unit.resolver options = none) ∧
    events.filterMap SinkEvent.text? =
      visited unit.resolver options (unit.annotatedWith functionAnnotation) ∧
    ∀ path, outcome.file = some path →
      unit.annotatedWith functionAnnotation ≠ [] ∧ path = location.relativePath := by
  obtain ⟨hannotated, rfl, rfl⟩ | ⟨hannotated, hall, rfl, rfl⟩ := recorded_of_ok h
  · rw [hannotated]
    exact ⟨fun _ hmem => absurd hmem List.not_mem_nil, rfl, nofun⟩
  · refine ⟨hall, ?_, fun path hpath => ⟨hannotated, (Option.some.inj hpath).symm⟩⟩
    rw [List.cons_append, List.filterMap_cons_none (f := SinkEvent.text?) rfl,
      List.filterMap_append, List.filterMap_map]
    exact (List.append_nil _).trans List.filterMap_some

/-- The file of a pass that succeeds tells what was generated, whatever it was generated from. Its
paragraphs are the texts of the functions, and two files with one text come from functions that say
the same. -/
theorem file_tells_functions {σ τ : Type} (hunit : unit.Named) (hunit' : unit'.Named)
    (sink : Sink (StateM σ)) (sink' : Sink (StateM τ)) (options options' : Options)
    (location location' : Location) (start : σ) (start' : τ) :
    let annotated := unit.annotatedWith functionAnnotation
    let annotated' := unit'.annotatedWith functionAnnotation
    let pass := ((run sink.recorded unit options location).run []).run start
    let pass' := ((run sink'.recorded unit' options' location').run []).run start'
    let text := SinkEvent.sentText pass.1.2
    ∀ outcome outcome', pass.1.1.1 = .ok outcome → pass'.1.1.1 = .ok outcome' →
      (∀ memory path, outcome.file = some path →
        ((run MemoryFiles.sink unit options location).run memory).2.file? path = some text) ∧
      paragraphs text = visited unit.resolver options annotated ∧
      (text = SinkEvent.sentText pass'.1.2 →
        summaries unit.resolver options annotated =
          summaries unit'.resolver options' annotated') := by
  intro annotated annotated' pass pass' text outcome outcome' hok hok'
  rcases hpass : pass with ⟨⟨⟨result, log⟩, events⟩, final⟩
  rcases hpass' : pass' with ⟨⟨⟨result', log'⟩, events'⟩, final'⟩
  obtain rfl : result = .ok outcome := (congrArg (·.1.1.1) hpass).symm.trans hok
  obtain rfl : result' = .ok outcome' := (congrArg (·.1.1.1) hpass').symm.trans hok'
  obtain ⟨hall, hsent, hfile⟩ := sent_of_ok hpass
  obtain ⟨hall', hsent', -⟩ := sent_of_ok hpass'
  have htext : text = String.join (visited unit.resolver options annotated) := by
    rw [← hsent]
    exact congrArg (fun pass => SinkEvent.sentText pass.1.2) hpass
  have htext' : SinkEvent.sentText events' =
      String.join (visited unit'.resolver options' annotated') := by
    rw [← hsent', SinkEvent.sentText]
  have hvisited := visited_eq_map_text hall
  have hvisited' := visited_eq_map_text hall'
  have hlegible := legible_summaries hunit options
  have hlegible' := legible_summaries hunit' options'
  refine ⟨fun memory path hpath => ?_, ?_, fun hsame => ?_⟩
  · obtain ⟨hannotated, rfl⟩ := hfile path hpath
    rw [run_memory_of_all options location memory hannotated hall, htext]
    simp only [MemoryFiles.file?_commit, Path.sameAs_refl, if_true]
    rfl
  · rw [htext, hvisited]
    exact FunctionSummary.paragraphs_join_text hlegible
  · refine map_inj_on FunctionSummary.text_inj hlegible hlegible' ?_
    rw [← FunctionSummary.paragraphs_join_text hlegible,
      ← FunctionSummary.paragraphs_join_text hlegible', ← hvisited, ← hvisited']
    exact congrArg paragraphs (htext.symm.trans (hsame.trans htext'))

/-- Two interfaces of different names and packages, with one property each, give the same file. -/
theorem file_tells_functions_of_two :
    let mark := Annotation.mk functionAnnotation [(nameArgument, "make")]
    let next := Property.mk "next" (.mk "Int" false []) []
    let unit (name package : String) : CompilationUnit :=
      ⟨[⟨name, package, .interface, [mark], [next]⟩], .standard package⟩
    let first := unit "First" ""
    let second := unit "Second" "app"
    first.Named ∧ second.Named ∧
      summaries first.resolver .default (first.annotatedWith functionAnnotation) =
        summaries second.resolver ⟨true⟩ (second.annotatedWith functionAnnotation) := by
  intro mark next unit first second
  have hmake : TypeExpr.IsSegment "make".toList := by decide +kernel
  have hnext : TypeExpr.IsSegment "next".toList := by decide +kernel
  have hnamed (name package : String) : (unit name package).Named := by
    have htable := (SymbolTable.Reached.standard package).consistent
    refine ⟨fun declaration hmem function hfunction => ?_,
      fun declaration hmem property hproperty => ?_, fun _ _ => htable.isName_of_resolve?⟩
    · cases List.mem_singleton.1 (List.mem_filter.1 hmem).1
      cases hfunction
      exact hmake
    · cases List.mem_singleton.1 (List.mem_filter.1 hmem).1
      cases List.mem_singleton.1 hproperty
      exact hnext
  obtain ⟨outcome, houtcome⟩ : ∃ outcome, (((run MemoryFiles.sink.recorded first .default
      .default).run []).run .empty).1.1.1 = .ok outcome :=
    failure?_eq_none_iff.1 (by decide +kernel)
  obtain ⟨outcome', houtcome'⟩ : ∃ outcome, (((run MemoryFiles.sink.recorded second ⟨true⟩
      .default).run []).run .empty).1.1.1 = .ok outcome :=
    failure?_eq_none_iff.1 (by decide +kernel)
  obtain ⟨-, -, hread⟩ := file_tells_functions (hnamed "First" "") (hnamed "Second" "app")
    MemoryFiles.sink MemoryFiles.sink .default ⟨true⟩ .default .default .empty .empty outcome
    outcome' houtcome houtcome'
  exact ⟨hnamed "First" "", hnamed "Second" "app", hread (by decide +kernel)⟩

end Pass

end FunctionForge
