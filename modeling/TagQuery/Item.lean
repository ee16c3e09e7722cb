import TagQuery.Query

namespace TagQuery

structure Item where
  name : Text
  tags : List Text
  deriving DecidableEq, Repr

namespace Item

/-- The text in which queries look for tags: the name, and then the tags between braces. An item
without tags has one empty pair of braces. -/
def searchedText (item : Item) : Text :=
  item.name ++ " : ".toList ++ Text.braced (['}', ',', '{'].intercalate item.tags)

/-- The tags in a text that separates them by commas. Blank characters around a tag are dropped, and
so is what is blank altogether. -/
def tagsOf (text : Text) : List Text :=
  ((text.splitOn ',').map Text.trim).filter (· ≠ [])

/-- The item on a line, which is the name, a tab, and the tags. Without a tab there are no tags. -/
def ofLine (line : Text) : Item where
  name := Text.trim (line.takeWhile (· ≠ '\t'))
  tags := tagsOf (line.dropWhile (· ≠ '\t')).tail

def satisfies (item : Item) (query : Text) : Bool := Query.selects query item.searchedText

end Item

namespace Catalog

def ofLines (lines : List Text) : List Item :=
  (lines.filter fun line => Text.trim line ≠ []).map Item.ofLine

def select (query : Text) (items : List Item) : List Item :=
  items.filter (·.satisfies query)

end Catalog
end TagQuery
