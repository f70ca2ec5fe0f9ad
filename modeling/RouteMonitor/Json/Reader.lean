import RouteMonitor.Json
import RouteMonitor.Json.Token

/-!
# A strict reader of JSON

The reader that the executable runs with. It takes a document to be one value with nothing after it,
neither comments nor surplus commas anywhere. Each of its parts takes a value, or the rest of a
bracketed list, from the front of the tokens and returns the tokens that it left, which are fewer.

No other module relies on it: a program with another reader differs in the documents it accepts and
in the words for those it refuses.
-/

namespace RouteMonitor.Json

abbrev RestTokens (tokens : List Token) := { rest : List Token // rest.length < tokens.length }

mutual

def readValue? (tokens : List Token) : Option (Json × RestTokens tokens) :=
  match tokens with
  | .null :: rest => some (.null, ⟨rest, by simp⟩)
  | .bool value :: rest => some (.bool value, ⟨rest, by simp⟩)
  | .number text :: rest => some (.number text, ⟨rest, by simp⟩)
  | .string text :: rest => some (.string text, ⟨rest, by simp⟩)
  | .openBracket :: .closeBracket :: rest =>
    some (.array [], ⟨rest, by simp only [List.length_cons]; omega⟩)
  | .openBracket :: rest =>
    match readItems? rest with
    | some (items, ⟨after, _⟩) =>
      some (.array items, ⟨after, by simp only [List.length_cons]; omega⟩)
    | none => none
  | .openBrace :: .closeBrace :: rest =>
    some (.object [], ⟨rest, by simp only [List.length_cons]; omega⟩)
  | .openBrace :: rest =>
    match readMembers? rest with
    | some (members, ⟨after, _⟩) =>
      some (.object members, ⟨after, by simp only [List.length_cons]; omega⟩)
    | none => none
  | _ => none
termination_by (tokens.length, 0)

/-- Reads the items of a list up to its closing bracket. -/
def readItems? (tokens : List Token) : Option (List Json × RestTokens tokens) :=
  match readValue? tokens with
  | some (item, ⟨.closeBracket :: rest, hrest⟩) =>
    some ([item], ⟨rest, by simp only [List.length_cons] at hrest; omega⟩)
  | some (item, ⟨.comma :: rest, hrest⟩) =>
    match readItems? rest with
    | some (items, ⟨after, hafter⟩) =>
      some (item :: items, ⟨after, by simp only [List.length_cons] at hrest; omega⟩)
    | none => none
  | _ => none
termination_by (tokens.length, 1)
decreasing_by
  · exact Prod.Lex.right _ Nat.zero_lt_one
  · exact Prod.Lex.left _ _ (by simp only [List.length_cons] at hrest; omega)

/-- Reads the members of an object up to its closing brace. -/
def readMembers? (tokens : List Token) : Option (List (Bytes × Json) × RestTokens tokens) :=
  match tokens with
  | .string name :: .colon :: value =>
    match readValue? value with
    | some (member, ⟨.closeBrace :: rest, hrest⟩) =>
      some ([(name, member)], ⟨rest, by simp only [List.length_cons] at hrest ⊢; omega⟩)
    | some (member, ⟨.comma :: rest, hrest⟩) =>
      match readMembers? rest with
      | some (members, ⟨after, hafter⟩) =>
        some ((name, member) :: members,
          ⟨after, by simp only [List.length_cons] at hrest ⊢; omega⟩)
      | none => none
    | _ => none
  | _ => none
termination_by (tokens.length, 0)
decreasing_by
  · exact Prod.Lex.left _ _ (by simp only [List.length_cons]; omega)
  · exact Prod.Lex.left _ _ (by simp only [List.length_cons] at hrest ⊢; omega)

end

def ofTokens? (tokens : List Token) : Option Json :=
  match readValue? tokens with
  | some (value, ⟨[], _⟩) => some value
  | _ => none

def strictReader : Reader := fun text =>
  match (Token.ofText? text).bind ofTokens? with
  | some json => .ok json
  | none => .error (utf8 "Syntax error: value, object or array expected.\n")

end RouteMonitor.Json
