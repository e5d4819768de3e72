import Transclusion.Pattern.Category
import Transclusion.Pattern.Script

namespace Transclusion.Pattern

/-! Sets of characters by name. Case does not count in a name, nor do blanks, hyphens and
underscores. -/

def plainName (name : Text) : Text :=
  let plain := fun (text : Text) =>
    (text.filter fun c => c.toNat < 0x80 && c != ' ' && c != '_' && c != '-').map Char.toLower
  match name with
  | first :: second :: rest =>
      if first.toLower = 'i' ∧ second.toLower = 's' then
        if plain rest = ['c'] then ['i', 's', 'c'] else plain rest
      else plain name
  | _ => plain name

def named (names : List String) (name : Text) : Bool :=
  names.any (·.toList = name)

def binary? (name : Text) : Option CharSet :=
  if named ["alphabetic", "alpha"] name then some alphabetic
  else if named ["lowercase", "lower"] name then some lowercase
  else if named ["uppercase", "upper"] name then some uppercase
  else if named ["whitespace", "wspace", "space"] name then some Text.isBlank
  else if named ["asciihexdigit", "ahex"] name then
    some fun c => (Text.hexValue? c).isSome
  else none

def property? (name : Text) : Option CharSet :=
  let name := plainName name
  (binary? name).or ((category? name).or (ofTable? scriptTable name))

def propertyValue? (kind value : Text) : Option CharSet :=
  let kind := plainName kind
  let value := plainName value
  if named ["generalcategory", "gc"] kind then category? value
  else if named ["script", "sc", "scriptextensions", "scx"] kind then ofTable? scriptTable value
  else none

def asciiClass? (name : Text) : Option CharSet :=
  let printable := CharSet.range '!' '~'
  let alnum : CharSet := Char.isAlphanum
  if named ["alnum"] name then some alnum
  else if named ["alpha"] name then some Char.isAlpha
  else if named ["ascii"] name then some CharSet.ascii
  else if named ["blank"] name then some fun c => c == ' ' || c == '\t'
  else if named ["cntrl"] name then some fun c => decide (c.toNat < 0x20) || c == '\x7f'
  else if named ["digit"] name then some Char.isDigit
  else if named ["graph"] name then some printable
  else if named ["lower"] name then some Char.isLower
  else if named ["print"] name then some (printable.union (CharSet.single ' '))
  else if named ["punct"] name then some (printable.difference alnum)
  else if named ["space"] name then
    some ((CharSet.single '\x0b').union Text.isAsciiBlank)
  else if named ["upper"] name then some Char.isUpper
  else if named ["word"] name then some (alnum.union (CharSet.single '_'))
  else if named ["xdigit"] name then some fun c => (Text.hexValue? c).isSome
  else none

end Transclusion.Pattern
