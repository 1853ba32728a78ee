import WorkspaceImport.Proofs.TextFormat.Grammar
import WorkspaceImport.Proofs.TextFormat.Token
/-!
Writing messages. A draft of a message says which values are texts, to be put between double quotes,
and which are words, to be written as they stand. Its text has a line for each field; what is read
back from that text is the message of the draft, so nothing in a text can be taken for a part of the
format.
-/
namespace WorkspaceImport.TextFormat

abbrev Word := { cs : List Char // IsWord cs }

def word (s : String) (isWord : IsWord s.toList := by decide) : Word :=
  ⟨s.toList, isWord⟩

@[simp]
theorem ofList_word (s : String) (isWord : IsWord s.toList) : String.ofList (word s isWord).1 = s :=
  String.ofList_toList

inductive Draft where
  | text (s : String)
  | bare (w : Word)
  | block (fields : List (Word × Draft))

namespace Draft

mutual

/-- What is written behind the name of a field. -/
def chars : Draft → List Char
  | .text s => ':' :: ' ' :: (literalOf '"' s.toList).chars
  | .bare w => ':' :: ' ' :: w.1
  | .block fields => ' ' :: '{' :: '\n' :: (rowChars fields ++ ['}'])

def rowChars : List (Word × Draft) → List Char
  | [] => []
  | (name, d) :: rest => name.1 ++ (d.chars ++ '\n' :: rowChars rest)

end

mutual

def spelling : Draft → List Token
  | .text s => [.mark ':', literalOf '"' s.toList]
  | .bare w => [.mark ':', .word w.1]
  | .block fields => .mark '{' :: (rowSpelling fields ++ [.mark '}'])

def rowSpelling : List (Word × Draft) → List Token
  | [] => []
  | (name, d) :: rest => .word name.1 :: (d.spelling ++ rowSpelling rest)

end

mutual

def item : Draft → Item
  | .text s => .scalar s
  | .bare w => .scalar (String.ofList w.1)
  | .block fields => .message (rowItems fields)

def rowItems : List (Word × Draft) → Message
  | [] => []
  | (name, d) :: rest => (String.ofList name.1, d.item) :: rowItems rest

end

/-- The text of a message, one line for each of its fields. -/
def print (fields : List (Word × Draft)) : String :=
  String.ofList (rowChars fields)

mutual

theorem tokens_chars {rest : List Char} {ts : List Token} (d : Draft)
    (ends : ∀ c ∈ rest.head?, isWordChar c = false) (scanned : tokens rest = .ok ts) :
    tokens (d.chars ++ rest) = .ok (d.spelling ++ ts) :=
  match d with
  | .text s => tokens_mark (by decide) rfl (tokens_blank rfl (tokens_literal rfl s.toList scanned))
  | .bare w => tokens_mark (by decide) rfl (tokens_blank rfl (tokens_word w.2 ends scanned))
  | .block fields => by
    simp only [chars, spelling, List.cons_append, List.append_assoc, List.nil_append]
    have closed := tokens_mark (c := '}') (by decide) rfl scanned
    exact tokens_blank rfl (tokens_mark (by decide) rfl
      (tokens_blank rfl (tokens_rowChars fields closed)))

theorem tokens_rowChars {rest : List Char} {ts : List Token} (fields : List (Word × Draft))
    (scanned : tokens rest = .ok ts) :
    tokens (rowChars fields ++ rest) = .ok (rowSpelling fields ++ ts) :=
  match fields with
  | [] => scanned
  | (name, d) :: more => by
    rw [rowChars, rowSpelling, List.append_assoc, List.append_assoc, List.cons_append,
      List.cons_append, List.append_assoc]
    have others := tokens_blank (c := '\n') rfl (tokens_rowChars more scanned)
    have value := tokens_chars d (fun c first => by cases first; rfl) others
    refine tokens_word name.2 ?_ value
    cases d <;> (intro c first; cases first; rfl)

end

theorem isValue_literal (s : String) : IsValue [literalOf '"' s.toList] (.scalar s) := by
  have body : [literalOf '"' s.toList].flatMap literalText = s.toList := by
    have back : unescape (s.toList.flatMap (escapeChar '"')) = s.toList := unescape_flatMap rfl _
    simp [literalOf, literalText, back]
  have value := IsValue.literals (List.cons_ne_nil (literalOf '"' s.toList) [])
    (by simp [literalOf, isLiteral])
  rwa [body, String.ofList_toList] at value

mutual

theorem isField (name : Word) (d : Draft) :
    IsField (.word name.1 :: d.spelling) (String.ofList name.1) d.item :=
  match d with
  | .text s => .colon (isValue_literal s)
  | .bare w => .colon (.word w.1)
  | .block fields => .plain (.braces (isMessage fields))

theorem isMessage (fields : List (Word × Draft)) :
    IsMessage (rowSpelling fields) (rowItems fields) :=
  match fields with
  | [] => .empty
  | (name, d) :: more => .field (isField name d) (isMessage more)

end

theorem rowItems_eq_map (fields : List (Word × Draft)) :
    rowItems fields = fields.map fun row => (String.ofList row.1.1, row.2.item) := by
  induction fields with
  | nil => rfl
  | cons row rest ih => rw [rowItems, ih, List.map_cons]

theorem nesting_rowItems_le_iff {fields : List (Word × Draft)} {n : Nat} :
    nesting (rowItems fields) ≤ n ↔ ∀ row ∈ fields, row.2.item.nesting ≤ n := by
  rw [rowItems_eq_map, nesting_le_iff, List.forall_mem_map]

theorem tokens_print (fields : List (Word × Draft)) :
    tokens (print fields).toList = .ok (rowSpelling fields) := by
  have ending : tokens [] = .ok [] := by
    unfold tokens lexemesFrom
    rfl
  have whole := tokens_rowChars fields ending
  rw [List.append_nil, List.append_nil] at whole
  rw [print, String.toList_ofList]
  exact whole

theorem parse_print {fields : List (Word × Draft)} (shallow : nesting (rowItems fields) ≤ nestingLimit) :
    parse (print fields) = .ok (rowItems fields) :=
  parse_eq_ok_iff.2 ⟨_, tokens_print fields, isMessage fields, shallow⟩

end Draft

end WorkspaceImport.TextFormat
