import FilterQuery.Text.Utf8

/-!
The order of texts by their bytes, which is the order that a binary collation gives. -/

namespace FilterQuery.Text

/-- Texts in the order of their UTF-8 bytes. -/
def byteOrder (a b : String) : Ordering :=
  compare (utf8Bytes a) (utf8Bytes b)

end FilterQuery.Text
