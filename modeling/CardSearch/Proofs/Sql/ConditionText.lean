import CardSearch.Proofs.Sql.Rendering
import CardSearch.Proofs.Sql.Shape
import CardSearch.Proofs.Sql.Unambiguity

/-!
The conditions of leaves as SQL symbols. Their parentheses are closed and their connectives stand
inside of parentheses, so a condition keeps its meaning wherever it stands.
-/

namespace CardSearch.Sql

open CardSearch.Query (Leaf)

namespace Symbol

theorem isPlain_of_isDigit {digit : Char} (ascii : digit.isDigit = true) :
    isPlain digit = true := by
  have bounds : 48 ≤ digit.toNat ∧ digit.toNat ≤ 57 := Char.isDigit_iff_toNat.1 ascii
  have differs : ∀ mark : Char, mark.toNat < 48 → digit ≠ mark := by
    intro mark small
    rintro rfl
    omega
  have visible := Text.isBlank_eq_false_of_isDigit ascii
  simp [isPlain, separator?, visible, differs '\'' (by decide), differs '(' (by decide),
    differs ')' (by decide), differs ',' (by decide)]

theorem scan_placeholder (offset index : Nat) :
    scan (.word []) (placeholder offset index).toList =
      ([], .word (placeholder offset index).toList) := by
  apply scan_plain
  rw [toList_placeholder, List.all_cons, Bool.and_eq_true]
  refine ⟨by decide, List.all_eq_true.2 fun digit member => ?_⟩
  exact isPlain_of_isDigit (Nat.isDigit_of_mem_toDigits (by decide) (by decide) member)

theorem read_placeholder (offset index : Nat) :
    read (placeholder offset index).toList = [.word (placeholder offset index).toList] := by
  rw [read, scan_placeholder, toList_placeholder]
  simp [Mode.close, ofWord, keywords, List.lookup_cons]

end Symbol

namespace Piece

def symbols (offset : Nat) : Piece → List Symbol
  | .sql text => Symbol.read text.toList
  | .slot index => [.word (placeholder offset index).toList]

/-- Texts end between words, and slots end where a separator stands. -/
def spaced : List Piece → Bool
  | [] => true
  | .sql text :: rest => (Symbol.scan (.word []) text.toList).2 = .word [] && spaced rest
  | [.slot _] => true
  | .slot _ :: .sql text :: rest => Symbol.startsApart text.toList && spaced (.sql text :: rest)
  | .slot _ :: .slot _ :: _ => false

theorem read_spaced (offset : Nat) (pieces : List Piece) (apart : spaced pieces) :
    Symbol.Complete (pieces.flatMap fun piece => (piece.render offset).toList) ∧
      Symbol.read (pieces.flatMap fun piece => (piece.render offset).toList) =
        pieces.flatMap (symbols offset) := by
  fun_induction spaced pieces with
  | case1 => exact ⟨⟨[], rfl⟩, rfl⟩
  | case2 text rest ih =>
    simp only [Bool.and_eq_true, decide_eq_true_eq] at apart
    obtain ⟨complete, same⟩ := ih apart.2
    simp only [List.flatMap_cons, render, symbols, ← same]
    exact ⟨Symbol.complete_append apart.1 complete, Symbol.read_append apart.1 _⟩
  | case3 index =>
    simp only [List.flatMap_cons, List.flatMap_nil, List.append_nil, render, symbols]
    exact ⟨⟨_, congrArg Prod.snd (Symbol.scan_placeholder offset index)⟩,
      Symbol.read_placeholder offset index⟩
  | case4 index text rest ih =>
    simp only [Bool.and_eq_true] at apart
    obtain ⟨complete, same⟩ := ih apart.2
    -- The placeholder is a word of its own if a separator ends it.
    have begins : Symbol.startsApart ((Piece.sql text :: rest).flatMap fun piece =>
        (piece.render offset).toList) := by
      simp only [List.flatMap_cons, render]
      exact Symbol.startsApart_append apart.1 _
    have ends : Symbol.Complete (placeholder offset index).toList :=
      ⟨_, congrArg Prod.snd (Symbol.scan_placeholder offset index)⟩
    generalize Piece.sql text :: rest = tail at complete same begins ⊢
    rw [List.flatMap_cons, List.flatMap_cons, ← same]
    refine ⟨Symbol.complete_append_apart ends begins complete, ?_⟩
    rw [render, Symbol.read_append_apart ends begins, Symbol.read_placeholder]
    rfl
  | case5 => simp at apart

/-- Whether the pieces leave all parentheses closed and no connective outside of them. -/
def depthThrough? (depth : Nat) (pieces : List Piece) : Option Nat :=
  pieces.foldlM
    (fun depth piece => match piece with
      | .sql text =>
        Expression.depthThrough? Expression.Level.operand.bars depth (Symbol.read text.toList)
      | .slot _ => some depth) depth

theorem depthThrough?_symbols (offset depth : Nat) (pieces : List Piece) :
    Expression.depthThrough? Expression.Level.operand.bars depth (pieces.flatMap (symbols offset)) =
      depthThrough? depth pieces := by
  induction pieces generalizing depth with
  | nil => rfl
  | cons piece pieces ih =>
    cases piece <;> simp [depthThrough?, symbols, ih, Expression.depthAfter?, Expression.Level.bars]

def selfContained (pieces : List Piece) : Bool :=
  spaced pieces && depthThrough? 0 pieces == some 0

/-- Symbols that may begin a condition. What follows an opening parenthesis begins no condition
itself. Conditions on the path of a deck are left out. -/
def mayBegin : List Symbol → Bool
  | .opening :: .word second :: _ => second = "c.due".toList || second = "c.card_type".toList
  | .word first :: _ =>
    first != "c.due".toList && first != "c.card_type".toList && first != "d.path".toList
  | _ => false

theorem mayBegin_append {front : List Symbol} (begins : mayBegin front) (last : List Symbol) :
    mayBegin (front ++ last) := by
  unfold mayBegin at begins
  split at begins
  · exact begins
  · exact begins
  · simp at begins

def sound (pieces : List Piece) : Bool :=
  selfContained pieces && match pieces with
    | .sql text :: _ => mayBegin (Symbol.read text.toList)
    | _ => false

end Piece

theorem read_columnOf (name : CardSearch.Query.Property) :
    Symbol.Complete (columnOf name).toList ∧
      Expression.Balanced Expression.Level.operand.bars (Symbol.read (columnOf name).toList) ∧
      Piece.mayBegin (Symbol.read (columnOf name).toList) := by
  cases name with
  | retrievability =>
    unfold columnOf retrievability
    rw [String.toList_append, String.toList_ofList, String.toList_ofList]
    refine ⟨⟨[], by decide +kernel⟩, ?_, by decide +kernel⟩
    unfold Expression.Balanced
    decide +kernel
  | interval | lapses | ease | reps | stability | difficulty =>
    refine ⟨⟨_, rfl⟩, ?_, ?_⟩
    · unfold Expression.Balanced
      decide +kernel
    · decide +kernel

theorem read_symbol (comparison : CardSearch.Query.Comparison) :
    (Symbol.scan (.word []) (comparison.symbol.toList ++ [' '])).2 = .word [] ∧
      Symbol.read (comparison.symbol.toList ++ [' ']) = [.word comparison.symbol.toList] := by
  cases comparison <;> decide +kernel

namespace Condition

open Piece CardSearch.Query

theorem sound_property (name : Property) (comparison : Comparison) :
    sound [.sql (columnOf name ++ " " ++ comparison.symbol ++ " "), .slot 0] := by
  obtain ⟨complete, balanced, begins⟩ := read_columnOf name
  obtain ⟨ends, symbols⟩ := read_symbol comparison
  have blank : Symbol.separator? ' ' = some [] := by decide
  have text : (columnOf name ++ " " ++ comparison.symbol ++ " ").toList =
      (columnOf name).toList ++ ' ' :: (comparison.symbol.toList ++ [' ']) := by simp
  generalize comparison.symbol.toList ++ [' '] = rest at ends symbols text
  have read := Symbol.read_append_separator complete blank rest
  have last : (Symbol.scan (.word []) ((columnOf name).toList ++ ' ' :: rest)).2 = .word [] := by
    obtain ⟨word, same⟩ := complete
    simp [Symbol.scan_append, same, Symbol.scan_separator blank, ends]
  have depth : Expression.depthThrough? Expression.Level.operand.bars 0
      (Symbol.read (columnOf name).toList ++ Symbol.read rest) = some 0 := by
    unfold Expression.Balanced at balanced
    simp [balanced, symbols, Expression.depthAfter?, Expression.Level.bars]
  simp only [sound, selfContained, spaced, depthThrough?, List.foldlM_cons, List.foldlM_nil, text,
    last, read, List.nil_append, depth, mayBegin_append begins]
  rfl

theorem sound_sample {shape : Leaf.Shape} (elsewhere : ∀ ending, shape ≠ .deck ending) :
    sound (ofLeaf shape.sample).pieces := by
  cases shape with
  | deck ending => exact absurd rfl (elsewhere ending)
  | text inField | regex inField => cases inField <;> decide +kernel
  | tag ending => cases ending <;> decide +kernel
  | state cardState => cases cardState <;> decide +kernel
  | property name comparison => exact sound_property name comparison
  | date kind rated => cases kind <;> cases rated <;> decide +kernel
  | phrase | flag | wholeWord | accentless => decide +kernel

theorem selfContained_sample (shape : Leaf.Shape) : selfContained (ofLeaf shape.sample).pieces := by
  have contained (elsewhere : ∀ ending, shape ≠ .deck ending) :
      selfContained (ofLeaf shape.sample).pieces := by
    have holds := sound_sample elsewhere
    simp only [sound, Bool.and_eq_true] at holds
    exact holds.1
  cases shape with
  | deck ending => cases ending <;> decide +kernel
  | _ => exact contained (by simp)

theorem selfContained_ofLeaf (leaf : Leaf) : selfContained (ofLeaf leaf).pieces :=
  (ofLeaf_sample leaf).1 ▸ selfContained_sample leaf.shape

theorem spaced_ofLeaf (leaf : Leaf) : spaced (ofLeaf leaf).pieces := by
  have contained := selfContained_ofLeaf leaf
  simp only [selfContained, Bool.and_eq_true] at contained
  exact contained.1

def symbols (offset : Nat) (leaf : Leaf) : List Symbol :=
  Symbol.read ((ofLeaf leaf).render offset).toList

theorem read_render (offset : Nat) (leaf : Leaf) :
    Symbol.Complete ((ofLeaf leaf).render offset).toList ∧
      symbols offset leaf = (ofLeaf leaf).pieces.flatMap (Piece.symbols offset) := by
  rw [symbols, toList_render]
  exact read_spaced offset _ (spaced_ofLeaf leaf)

theorem balanced_symbols (offset : Nat) (leaf : Leaf) :
    Expression.Balanced Expression.Level.operand.bars (symbols offset leaf) := by
  have contained := selfContained_ofLeaf leaf
  simp only [selfContained, Bool.and_eq_true, beq_iff_eq] at contained
  rw [(read_render offset leaf).2, Expression.Balanced, depthThrough?_symbols]
  exact contained.2

theorem mayBegin_symbols (offset : Nat) {leaf : Leaf} (elsewhere : ∀ path, leaf ≠ .deck path) :
    mayBegin (symbols offset leaf) := by
  have holds : sound (ofLeaf leaf).pieces := by
    rw [← (ofLeaf_sample leaf).1]
    apply sound_sample
    cases leaf with
    | deck path => exact absurd rfl (elsewhere path)
    | _ => simp [Leaf.shape]
  simp only [sound, Bool.and_eq_true] at holds
  rw [(read_render offset leaf).2]
  cases shape : (ofLeaf leaf).pieces with
  | nil => simp [shape] at holds
  | cons piece rest =>
    cases piece with
    | slot => simp [shape] at holds
    | sql text =>
      rw [shape] at holds
      exact mayBegin_append holds.2 _

def pathText (slot : List Char) : List Symbol :=
  [.word "d.path".toList, .word "ILIKE".toList, .word slot]

def belowText (slot : List Char) : List Symbol :=
  [.word "d.path".toList, .word "ILIKE".toList, .opening, .word slot, .word "||".toList,
    .literal "::%".toList, .closing]

def subtreeText (slot : List Char) : List Symbol :=
  .opening :: (pathText slot ++ .or :: belowText slot ++ [.closing])

theorem symbols_inSubtree (offset : Nat) (path : String) :
    (inSubtree "d.path" path).1.flatMap (Piece.symbols offset) =
      subtreeText (placeholder offset 0).toList := by
  have first : Symbol.read ("(" ++ "d.path" ++ " ILIKE ").toList =
      [.opening, .word "d.path".toList, .word "ILIKE".toList] := by decide +kernel
  have again : Symbol.read (" OR " ++ "d.path" ++ " ILIKE (").toList =
      [.or, .word "d.path".toList, .word "ILIKE".toList, .opening] := by decide +kernel
  have last : Symbol.read " || '::%'))".toList =
      [.word "||".toList, .literal "::%".toList, .closing, .closing] := by decide +kernel
  simp only [inSubtree, List.flatMap_cons, List.flatMap_nil, Piece.symbols]
  rw [first, again, last]
  rfl

theorem symbols_deck (offset : Nat) (path : String) :
    symbols offset (.deck path) = pathText (placeholder offset 0).toList ∨
      symbols offset (.deck path) = subtreeText (placeholder offset 0).toList := by
  have compared : Symbol.read ("d.path" ++ " ILIKE ").toList =
      [.word "d.path".toList, .word "ILIKE".toList] := by decide +kernel
  rw [(read_render offset _).2]
  simp only [ofLeaf, ofDeck]
  cases PathPattern.ofText path with
  | beginning start =>
    left
    simp only [pathLike, columnLike, List.flatMap_cons, List.flatMap_nil, Piece.symbols]
    rw [compared]
    rfl
  | subtree path => exact .inr (symbols_inSubtree offset path)
  | exact path => exact .inr (symbols_inSubtree offset path)

def Shaped (text : List Symbol) : Prop :=
  mayBegin text ∨ ∃ slot, text = pathText slot ∨ text = subtreeText slot

theorem shaped_symbols (offset : Nat) (leaf : Leaf) : Shaped (symbols offset leaf) := by
  cases leaf with
  | deck path => exact .inr ⟨_, symbols_deck offset path⟩
  | _ => exact .inl (mayBegin_symbols offset (by simp))

end Condition

end CardSearch.Sql
