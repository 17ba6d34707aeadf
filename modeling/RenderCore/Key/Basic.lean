import RenderCore.Hash.Xxh3
import RenderCore.Text.Hex
namespace RenderCore

structure Key where
  text : String
deriving DecidableEq, Inhabited

namespace Key

inductive Field where
  | count (v : UInt32)
  | hex (v : UInt64)
  | text (s : String)
  | nested (k : Key)

def Field.render : Field → String
  | .count v => toString v.toNat
  | .hex v => Hex.word v.toNat
  | .text s => s
  | .nested k => k.text

def ofFields (fields : List Field) : Key :=
  ⟨"[" ++ ",".intercalate (fields.map Field.render) ++ "]"⟩

def concat (parts : List String) : Key :=
  ⟨String.join parts⟩

-- Keys are ordered by their text, byte by byte in UTF-8, which is the order of code points.
def compareText (a b : Key) : Ordering :=
  compare a.text.toList b.text.toList

def digest (k : Key) : UInt64 :=
  Xxh3.digest k.text.toUTF8

def extendAll (c : Char) (open_ : List (List Char)) : List (List Char) :=
  open_.map (c :: ·)

-- One field is being read per open list, kept reversed; a `,` or `]` outside every list is plain
-- text of no field.
def scanFields (target : List Char) : List Char → List (List Char) → Bool
  | [], _ => false
  | c :: rest, open_ =>
    if c = '[' then
      scanFields target rest ([] :: extendAll c open_)
    else if c = ',' ∨ c = ']' then
      match open_ with
      | [] => scanFields target rest []
      | field :: outer =>
        if field ≠ [] ∧ field = target then true
        else if c = ',' then scanFields target rest ([] :: extendAll c outer)
        else scanFields target rest (extendAll c outer)
    else
      scanFields target rest (extendAll c open_)

-- Whether `field` is the whole key or one whole field of it, at any depth of nesting. A nested key
-- counts as one field, and so does each of its own fields.
def hasField (k : Key) (field : String) : Bool :=
  k.text == field || scanFields field.toList.reverse k.text.toList []

end Key

end RenderCore
