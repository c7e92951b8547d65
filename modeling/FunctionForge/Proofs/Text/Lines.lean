import Mathlib.Data.List.SplitBy
import FunctionForge.Text.Indented

/-!
# Texts made of lines

A text is written line by line, and can be taken apart into its lines again if no line has a newline
of its own. Blank lines part the text into paragraphs, each of which starts at a blank line.
-/

namespace FunctionForge.Text

/-- Lines one after the other, each with a newline at its end. -/
def joinLines (lines : List String) : String := String.join (lines.map fun line => line ++ "\n")

@[simp] theorem joinLines_append (first second : List String) :
    joinLines (first ++ second) = joinLines first ++ joinLines second := by
  simp only [joinLines, List.map_append, String.join_append]

theorem joinLines_singleton (line : String) : joinLines [line] = line ++ "\n" := by
  simp [joinLines]

theorem joinLines_flatten (paragraphs : List (List String)) :
    joinLines paragraphs.flatten = String.join (paragraphs.map joinLines) := by
  induction paragraphs with
  | nil => rfl
  | cons lines rest ih =>
    rw [List.flatten_cons, joinLines_append, ih, List.map_cons, String.join_cons]

/-- A text without newlines. -/
def OneLine (text : String) : Prop := '\n' ∉ text.toList

instance : DecidablePred OneLine := fun text => inferInstanceAs (Decidable ('\n' ∉ text.toList))

@[simp] theorem oneLine_append_iff {first second : String} :
    OneLine (first ++ second) ↔ OneLine first ∧ OneLine second := by
  rw [OneLine, String.toList_append, List.mem_append, not_or]
  rfl

/-- A line that is not blank. -/
def IsPrinted (line : String) : Prop := line ≠ "" ∧ OneLine line

instance : DecidablePred IsPrinted := fun _ => inferInstanceAs (Decidable (_ ∧ _))

theorem isPrinted_append {first second : String} (hfirst : IsPrinted first)
    (hsecond : OneLine second) : IsPrinted (first ++ second) :=
  ⟨fun h => hfirst.1 (String.append_eq_empty_iff.1 h).1,
    oneLine_append_iff.2 ⟨hfirst.2, hsecond⟩⟩

/-! ### Indented lines -/

/-- A line at the first level of indentation. -/
def indented (line : String) : String := "    " ++ line

theorem isPrinted_indented {line : String} (h : OneLine line) : IsPrinted (indented line) :=
  isPrinted_append (by decide) h

namespace Indented

/-- The builder that has written lines, with the standard indentation. -/
def ofLines (level : Nat) (lines : List String) : Indented := ⟨.standard, level, joinLines lines⟩

variable (level : Nat) (lines : List String)

theorem text_ofLines : (ofLines level lines).text = joinLines lines := rfl

theorem deeper_ofLines : (ofLines level lines).deeper = ofLines (level + 1) lines := rfl

theorem shallower_ofLines : (ofLines level lines).shallower = ofLines (level - 1) lines := rfl

theorem raw_ofLines (more : List String) :
    (ofLines level lines).raw (joinLines more) = ofLines level (lines ++ more) := by
  simp only [ofLines, raw, joinLines_append]

theorem blank_ofLines : (ofLines level lines).blank = ofLines level (lines ++ [""]) :=
  raw_ofLines level lines [""]

theorem line_ofLines_zero (s : String) : (ofLines 0 lines).line s = ofLines 0 (lines ++ [s]) := by
  simp only [ofLines, line, Indent.text, joinLines_append, joinLines_singleton, String.empty_append]

theorem line_ofLines_one (s : String) :
    (ofLines 1 lines).line s = ofLines 1 (lines ++ [indented s]) := by
  simp only [ofLines, line, joinLines_append, joinLines_singleton]
  rfl

end Indented

/-! ### Lines and paragraphs -/

/-- The characters of a line with the newline at its end. -/
def ended (line : String) : List Char := line.toList ++ ['\n']

/-- The lines of a text, each up to its newline. -/
def linesOf (text : String) : List (List Char) := text.toList.splitBy fun c _ => c ≠ '\n'

/-- The parts of a text between its blank lines. A blank line belongs to the part below it. -/
def paragraphs (text : String) : List String :=
  ((linesOf text).splitBy fun _ line => line ≠ ['\n']).map fun lines => String.ofList lines.flatten

theorem toList_joinLines (lines : List String) :
    (joinLines lines).toList = (lines.map ended).flatten := by
  rw [joinLines, String.toList_join, List.flatMap_map, List.flatMap_def]
  exact congrArg List.flatten (List.map_congr_left fun _ _ => String.toList_append)

theorem ended_ne_nil (line : String) : ended line ≠ [] := List.append_ne_nil_of_right_ne_nil _ nofun

theorem getLast_ended (line : String) : (ended line).getLast (ended_ne_nil line) = '\n' :=
  List.getLast_concat

theorem ended_eq_iff (line : String) : ended line = ['\n'] ↔ line = "" := by
  simp [ended]

theorem ended_inj {first second : String} (h : ended first = ended second) : first = second :=
  String.toList_inj.1 (List.append_cancel_right h)

theorem isChain_ended {line : String} (h : OneLine line) :
    (ended line).IsChain fun c _ => decide (c ≠ '\n') := by
  refine (List.pairwise_append.2 ⟨?_, List.pairwise_singleton _ _, fun c hc _ _ => ?_⟩).isChain
  · exact List.pairwise_of_forall_mem_list fun c hc _ _ => decide_eq_true fun hc' => h (hc' ▸ hc)
  · exact decide_eq_true fun hc' => h (hc' ▸ hc)

/-- Lines without newlines of their own are the lines of their text. -/
theorem linesOf_joinLines {lines : List String} (h : ∀ line ∈ lines, OneLine line) :
    linesOf (joinLines lines) = lines.map ended := by
  rw [linesOf, toList_joinLines, List.splitBy_flatten]
  · rw [List.mem_map]
    rintro ⟨line, -, hnil⟩
    exact ended_ne_nil line hnil
  · intro part hpart
    obtain ⟨line, hline, rfl⟩ := List.mem_map.1 hpart
    exact isChain_ended (h line hline)
  · rw [List.isChain_map]
    refine (List.pairwise_of_forall_mem_list fun line _ next _ => ?_).isChain
    refine ⟨ended_ne_nil line, ended_ne_nil next, ?_⟩
    rw [getLast_ended]
    rfl

theorem joinLines_inj {first second : List String} (hfirst : ∀ line ∈ first, OneLine line)
    (hsecond : ∀ line ∈ second, OneLine line) (h : joinLines first = joinLines second) :
    first = second := by
  refine List.map_injective_iff.2 (fun _ _ => ended_inj) ?_
  rw [← linesOf_joinLines hfirst, ← linesOf_joinLines hsecond, h]

theorem isChain_paragraph {lines : List String} (h : ∀ line ∈ lines, IsPrinted line) :
    (("" :: lines).map ended).IsChain fun _ line => decide (line ≠ ['\n']) := by
  rw [List.isChain_map]
  refine (List.pairwise_cons.2 ⟨fun line hline => ?_,
    List.pairwise_of_forall_mem_list fun _ _ line hline => ?_⟩).isChain
  · exact decide_eq_true (mt (ended_eq_iff line).1 (h line hline).1)
  · exact decide_eq_true (mt (ended_eq_iff line).1 (h line hline).1)

/-- Lines below blank lines are the paragraphs of their text. -/
theorem paragraphs_join {parts : List (List String)}
    (h : ∀ lines ∈ parts, ∀ line ∈ lines, IsPrinted line) :
    paragraphs (String.join (parts.map fun lines => joinLines ("" :: lines))) =
      parts.map fun lines => joinLines ("" :: lines) := by
  have hlines : ∀ line ∈ (parts.map fun lines => "" :: lines).flatten, OneLine line := by
    intro line hline
    obtain ⟨_, hpart, hmem⟩ := List.mem_flatten.1 hline
    obtain ⟨lines, hlines, rfl⟩ := List.mem_map.1 hpart
    rcases List.mem_cons.1 hmem with rfl | hmem
    · exact List.not_mem_nil
    · exact (h lines hlines line hmem).2
  have hjoin : String.join (parts.map fun lines => joinLines ("" :: lines)) =
      joinLines (parts.map fun lines => "" :: lines).flatten := by
    rw [joinLines_flatten, List.map_map]
    rfl
  rw [paragraphs, hjoin, linesOf_joinLines hlines, List.map_flatten, List.map_map,
    List.splitBy_flatten, List.map_map]
  · refine List.map_congr_left fun lines _ => String.toList_inj.1 ?_
    rw [toList_joinLines, Function.comp_apply, String.toList_ofList]
    rfl
  · rw [List.mem_map]
    rintro ⟨lines, -, hnil⟩
    cases hnil
  · intro part hpart
    obtain ⟨lines, hmem, rfl⟩ := List.mem_map.1 hpart
    exact isChain_paragraph (h lines hmem)
  · rw [List.isChain_map]
    exact (List.pairwise_of_forall_mem_list fun _ _ _ _ =>
      ⟨List.cons_ne_nil _ _, List.cons_ne_nil _ _, rfl⟩).isChain

end FunctionForge.Text
