import FunctionForge.Manifest.Unit
import FunctionForge.Proofs.Manifest.Places
import FunctionForge.Proofs.Text.Lines

/-!
# Manifests written block by block

A declaration is a block of lines under its heading, with the blocks of its properties below it, and
the name of a block stands on a line of its own. So a definition is told by the text in front of its
name, and the definitions of a scope stand one behind the other.
-/

namespace FunctionForge

open Text

/-- The line of a name, apart from its indentation. -/
def nameLine (name : String) : String := "name = \"" ++ name ++ "\""

theorem toList_nameLine (name : String) :
    (nameLine name).toList = Span.nameKey ++ Span.quoted '"' name := by
  have hkey : "name = \"".toList = Span.nameKey ++ ['"'] := rfl
  rw [nameLine, String.toList_append, String.toList_append, hkey, List.append_assoc,
    List.append_assoc]
  rfl

/-- A block of lines: those above its name, the indentation of its name, and those below it. -/
structure Block where
  above : List String
  indent : String
  name : String
  below : List String
  blank : ∀ c ∈ indent.toList, c = ' ' ∨ c = '\t'

/-- The lines of a block under a heading. -/
def Block.lines (heading : String) (b : Block) : List String :=
  heading :: b.above ++ (b.indent ++ nameLine b.name) :: b.below

def declarationHeading : String := "[[declarations]]"

def propertyHeading : String := "[[declarations.properties]]"

/-- The block of a declaration with the blocks of its properties. -/
structure DeclarationBlock extends Block where
  properties : List Block

/-- A declaration as one block, in which its properties are lines below its name. -/
def DeclarationBlock.whole (d : DeclarationBlock) : Block :=
  { d.toBlock with below := d.below ++ d.properties.flatMap (Block.lines propertyHeading) }

/-- The lines in front of the first declaration, and the declarations. -/
structure Document where
  preamble : List String
  declarations : List DeclarationBlock

namespace Document

def lines (doc : Document) : List String :=
  doc.preamble ++ (doc.declarations.map DeclarationBlock.whole).flatMap
    (Block.lines declarationHeading)

/-- Whether a text has the lines of a document. The last one may lack its newline. -/
def IsWritten (doc : Document) (source : String) : Prop :=
  source = joinLines doc.lines ∨ source ++ "\n" = joinLines doc.lines

end Document

/-! ### Definitions -/

/-- A definition of a name in a source: the text in front of its key, and the name. -/
structure Definition where
  front : String
  name : String

/-- The place of the name that is defined. -/
def Definition.span (d : Definition) : Span :=
  ⟨size d.front + byteLength Span.nameKey + 1, size d.name⟩

/-- The definitions of blocks behind lines. -/
def definitions (heading : String) (above : List String) : List Block → List Definition
  | [] => []
  | b :: rest =>
    ⟨joinLines (above ++ heading :: b.above) ++ b.indent, b.name⟩ ::
      definitions heading (above ++ b.lines heading) rest

theorem map_name_definitions (heading : String) (above : List String) (blocks : List Block) :
    (definitions heading above blocks).map Definition.name = blocks.map Block.name := by
  induction blocks generalizing above with
  | nil => rfl
  | cons b rest ih => rw [definitions, List.map_cons, ih, List.map_cons]

/-- A definition is a line among those of its blocks. -/
theorem exists_of_mem_definitions {heading : String} {above : List String} {blocks : List Block}
    {d : Definition} (h : d ∈ definitions heading above blocks) :
    ∃ between indent below, d.front = joinLines (above ++ between) ++ indent ∧
      (∀ c ∈ indent.toList, c = ' ' ∨ c = '\t') ∧
      blocks.flatMap (Block.lines heading) = between ++ (indent ++ nameLine d.name) :: below := by
  induction blocks generalizing above with
  | nil => exact absurd h List.not_mem_nil
  | cons b rest ih =>
    rw [definitions, List.mem_cons] at h
    rcases h with rfl | h
    · refine ⟨heading :: b.above, b.indent, b.below ++ rest.flatMap (Block.lines heading), rfl,
        b.blank, ?_⟩
      simp [Block.lines]
    · obtain ⟨between, indent, below, hfront, hblank, hlines⟩ := ih h
      refine ⟨b.lines heading ++ between, indent, below, ?_, hblank, ?_⟩
      · rw [hfront, List.append_assoc]
      · rw [List.flatMap_cons, hlines, List.append_assoc]

theorem size_joinLines_cons (line : String) (lines : List String) :
    size (joinLines (line :: lines)) = size line + 1 + size (joinLines lines) := by
  rw [← List.singleton_append, joinLines_append, size_append, joinLines_singleton, size_append]
  rfl

/-- Later definitions have more text in front of them. -/
theorem definitions_pairwise (heading : String) (above : List String) (blocks : List Block) :
    (definitions heading above blocks).Pairwise fun first second =>
      first.span.offset < second.span.offset := by
  induction blocks generalizing above with
  | nil => exact .nil
  | cons b rest ih =>
    rw [definitions, List.pairwise_cons]
    refine ⟨?_, ih _⟩
    intro d hd
    obtain ⟨between, indent, below, hfront, -, -⟩ := exists_of_mem_definitions hd
    have hsize : size (joinLines (above ++ heading :: b.above) ++ b.indent) < size d.front := by
      rw [hfront, Block.lines]
      simp only [joinLines_append, size_append, size_joinLines_cons]
      omega
    exact Nat.add_lt_add_right (Nat.add_lt_add_right hsize _) 1

/-! ### Scopes -/

/-- The scopes of a document with the contexts in which their names are checked: the declarations,
and the properties of a declaration whose name is not given earlier. -/
inductive Document.IsScope (doc : Document) : String → List Definition → Prop
  | declarations : IsScope doc "declaration"
      (definitions declarationHeading doc.preamble
        (doc.declarations.map DeclarationBlock.whole))
  | properties {before after : List DeclarationBlock} {owner : DeclarationBlock}
      (hdeclarations : doc.declarations = before ++ owner :: after)
      (howner : owner.name ∉ before.map fun d => d.name) :
      IsScope doc (Manifest.propertyContext owner.name)
        (definitions propertyHeading
          (doc.preamble ++ (before.map DeclarationBlock.whole).flatMap
            (Block.lines declarationHeading) ++ owner.lines declarationHeading) owner.properties)

theorem Document.IsScope.exists_lines {doc : Document} {context : String} {scope : List Definition}
    (h : doc.IsScope context scope) :
    ∃ heading above blocks below, scope = definitions heading above blocks ∧
      doc.lines = above ++ blocks.flatMap (Block.lines heading) ++ below := by
  cases h with
  | declarations => exact ⟨_, _, _, [], rfl, (List.append_nil _).symm⟩
  | @properties before after owner hdeclarations _ =>
    refine ⟨_, _, _, (after.map DeclarationBlock.whole).flatMap (Block.lines declarationHeading),
      rfl, ?_⟩
    rw [lines, hdeclarations]
    simp [DeclarationBlock.whole, Block.lines]

/-- Whether a clash in a scope is that of a definition with the first one that repeats its name. -/
def IsClash (scope : List Definition) (name : String) (first second : Definition) : Prop :=
  ∃ before middle after, scope = before ++ first :: (middle ++ second :: after) ∧
    first.name = name ∧ second.name = name ∧
    ((before ++ first :: middle).map Definition.name).Nodup

theorem exists_isClash {scope : List Definition} {name : String} {earlier later : List String}
    (hscope : scope.map Definition.name = earlier ++ name :: later) (hnodup : earlier.Nodup)
    (hname : name ∈ earlier) : ∃ first second, IsClash scope name first second := by
  obtain ⟨front, rest, rfl, rfl, hrest⟩ := List.map_eq_append_iff.1 hscope
  obtain ⟨second, after, rfl, rfl, -⟩ := List.map_eq_cons_iff.1 hrest
  obtain ⟨first, hfirst, hsame⟩ := List.mem_map.1 hname
  obtain ⟨before, middle, rfl⟩ := List.append_of_mem hfirst
  refine ⟨first, second, before, middle, after, ?_, hsame, rfl, hnodup⟩
  rw [List.append_assoc, List.cons_append]

theorem IsClash.left_name {scope : List Definition} {name : String} {first second : Definition}
    (h : IsClash scope name first second) : first.name = name := by
  obtain ⟨_, _, _, -, hname, -⟩ := h
  exact hname

theorem IsClash.right_name {scope : List Definition} {name : String} {first second : Definition}
    (h : IsClash scope name first second) : second.name = name := by
  obtain ⟨_, _, _, -, -, hname, -⟩ := h
  exact hname

/-- The definitions that clash are in the scope, the repeated one behind the other. -/
theorem IsClash.offset_lt {doc : Document} {context name : String} {scope : List Definition}
    {first second : Definition} (h : IsClash scope name first second)
    (hscope : doc.IsScope context scope) :
    first ∈ scope ∧ second ∈ scope ∧ first.span.offset < second.span.offset := by
  obtain ⟨heading, above, blocks, below, hdefinitions, -⟩ := hscope.exists_lines
  have hsorted : scope.Pairwise fun first second => first.span.offset < second.span.offset := by
    rw [hdefinitions]
    exact definitions_pairwise heading above blocks
  obtain ⟨before, middle, after, rfl, -⟩ := h
  have hrest := (List.pairwise_cons.1 (List.pairwise_append.1 hsorted).2.1).1
  exact ⟨by simp, by simp, hrest second (by simp)⟩

/-! ### Definitions as places of names -/

theorem startsLine_joinLines_append (lines : List String) {indent : String}
    (hindent : ∀ c ∈ indent.toList, c = ' ' ∨ c = '\t') :
    Span.StartsLine (joinLines lines ++ indent).toList := by
  refine ⟨(joinLines lines).toList, indent.toList, String.toList_append, ?_, hindent⟩
  cases lines using List.reverseRecOn with
  | nil => exact .inl rfl
  | append_singleton lines line =>
    refine .inr ?_
    rw [joinLines_append, joinLines_singleton, ← String.append_assoc, String.toList_append]
    exact List.getLast?_concat

/-- What stands in front of a newline of the lines stands in front of the text. -/
theorem Document.IsWritten.exists_rest {doc : Document} {source front : String}
    {more : List Char} (h : doc.IsWritten source)
    (hlines : (joinLines doc.lines).toList = front.toList ++ '\n' :: more) :
    ∃ rest, source.toList = front.toList ++ rest := by
  rcases h with rfl | h
  · exact ⟨_, hlines⟩
  · have hne : '\n' :: more ≠ [] := List.cons_ne_nil _ _
    rw [← h, String.toList_append, ← List.dropLast_append_getLast hne, ← List.append_assoc] at hlines
    exact ⟨_, (List.append_inj' hlines rfl).1⟩

/-- A definition of a scope is a place of its name in the text. -/
theorem Document.IsScope.isNamePlace {doc : Document} {source context : String}
    {scope : List Definition} (hscope : doc.IsScope context scope) (hwritten : doc.IsWritten source)
    {d : Definition} (hd : d ∈ scope) : Span.IsNamePlace source d.name d.span := by
  obtain ⟨heading, above, blocks, below, rfl, hlines⟩ := hscope.exists_lines
  obtain ⟨between, indent, more, hfront, hindent, hblocks⟩ := exists_of_mem_definitions hd
  have htext : (joinLines doc.lines).toList =
      (d.front ++ nameLine d.name).toList ++ '\n' :: (joinLines (more ++ below)).toList := by
    rw [hlines, hblocks, hfront]
    simp [joinLines_append, toList_joinLines, ended]
  obtain ⟨rest, hrest⟩ := hwritten.exists_rest htext
  refine ⟨d.front.toList, '"', rest, by decide, ?_, ?_, rfl⟩
  · rw [hfront]
    exact startsLine_joinLines_append _ hindent
  · rw [hrest, String.toList_append, toList_nameLine]

end FunctionForge
