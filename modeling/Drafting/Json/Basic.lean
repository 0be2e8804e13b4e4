import Drafting.Decimal.Numeral

/-!
# JSON values

A JSON value, with numbers as they are written and the members of an object in
their order.  Repeated names are possible here; what they mean is for the reader
of a format to say.
-/

namespace Drafting

inductive Json where
  | null
  | bool (b : Bool)
  | number (n : Decimal.Numeral)
  | string (s : String)
  | array (items : List Json)
  | object (members : List (String × Json))

end Drafting
