import ChainArchive.Proofs.Json.Reading
import ChainArchive.Proofs.Json.Written

namespace ChainArchive.Json

open Bytes

/-! The plain text of a tree, without white space, which spells it. -/

mutual

def Tree.text : Tree → Bytes
  | .null => ofString "null"
  | .bool b => ofString (toString b)
  | .number n => n.text
  | .string s => renderString s
  | .array [] => [byte '[', byte ']']
  | .array (item :: items) => byte '[' :: (Tree.text item ++ Tree.moreItems items)
  | .object [] => [byte '\x7b', byte '\x7d']
  | .object ((name, tree) :: members) =>
      byte '\x7b' :: (renderKey name ++ Tree.text tree ++ Tree.moreMembers members)

def Tree.moreItems : List Tree → Bytes
  | [] => [byte ']']
  | item :: items => byte ',' :: (Tree.text item ++ Tree.moreItems items)

def Tree.moreMembers : List (String × Tree) → Bytes
  | [] => [byte '\x7d']
  | (name, tree) :: members =>
      byte ',' :: (renderKey name ++ Tree.text tree ++ Tree.moreMembers members)

end

theorem spellsChars_renderKey (name : String) (rest : Bytes) :
    ∃ inner, renderKey name ++ rest = byte '"' :: inner ∧
      SpellsChars inner (ofString name) (byte ':' :: rest) := by
  refine ⟨(ofString name).flatMap escapeByte ++ byte '"' :: byte ':' :: rest, ?_,
    readString_sound (readString_render name (byte ':' :: rest))⟩
  simp [renderKey, renderString]

theorem spellsMembers_key {first : Bool} {text behind rest : Bytes} {name : String}
    {tree : Tree} {members : List (String × Tree)} {value : Bytes}
    (lead : Lead first text (renderKey name ++ value)) (h : Spells value tree behind)
    (hmore : SpellsMembers false behind members rest) :
    SpellsMembers first text ((name, tree) :: members) rest := by
  obtain ⟨inner, hkey, hname⟩ := spellsChars_renderKey name value
  rw [hkey] at lead
  exact .member lead hname (@Colon.mk [] [] _ blank_nil blank_nil) h hmore

mutual

theorem Tree.spells_text : ∀ (tree : Tree) (rest : Bytes),
    Spells (tree.text ++ rest) tree rest
  | .null, rest => by
      rw [Tree.text]
      exact .null rest
  | .bool b, rest => by
      rw [Tree.text]
      exact .bool b rest
  | .number n, rest => by
      rw [Tree.text]
      exact .number n rest
  | .string s, rest => by
      have htext : renderString s ++ rest =
          byte '"' :: ((ofString s).flatMap escapeByte ++ byte '"' :: rest) := by
        simp [renderString]
      rw [Tree.text, htext]
      exact .string (readString_sound (readString_render s rest))
  | .array [], rest => by
      rw [Tree.text]
      exact .array (.close blank_nil rest)
  | .array (item :: items), rest => by
      rw [Tree.text, List.cons_append, List.append_assoc]
      exact .array (.item (@Lead.first [] _ blank_nil) (Tree.spells_text item _)
        (Tree.spellsItems_more items rest))
  | .object [], rest => by
      rw [Tree.text]
      exact .object (.close blank_nil rest)
  | .object ((name, tree) :: members), rest => by
      rw [Tree.text, List.cons_append, List.append_assoc, List.append_assoc]
      exact .object (spellsMembers_key (@Lead.first [] _ blank_nil) (Tree.spells_text tree _)
        (Tree.spellsMembers_more members rest))

theorem Tree.spellsItems_more : ∀ (items : List Tree) (rest : Bytes),
    SpellsItems false (Tree.moreItems items ++ rest) items rest
  | [], rest => by
      rw [Tree.moreItems]
      exact .close blank_nil rest
  | item :: items, rest => by
      rw [Tree.moreItems, List.cons_append, List.append_assoc]
      exact .item (@Lead.comma [] [] _ blank_nil blank_nil) (Tree.spells_text item _)
        (Tree.spellsItems_more items rest)

theorem Tree.spellsMembers_more : ∀ (members : List (String × Tree)) (rest : Bytes),
    SpellsMembers false (Tree.moreMembers members ++ rest) members rest
  | [], rest => by
      rw [Tree.moreMembers]
      exact .close blank_nil rest
  | (name, tree) :: members, rest => by
      rw [Tree.moreMembers, List.cons_append, List.append_assoc, List.append_assoc]
      exact spellsMembers_key (@Lead.comma [] [] _ blank_nil blank_nil)
        (Tree.spells_text tree _) (Tree.spellsMembers_more members rest)

end

theorem Tree.document_text (tree : Tree) : Document tree.text tree := by
  have hspells := tree.spells_text []
  rw [List.append_nil] at hspells
  exact ⟨[], tree.text, [], rfl, blank_nil, hspells, blank_nil⟩

end ChainArchive.Json
