import Lucida.Lib.Ieee

namespace Lucida.Lib

inductive JsonNumber where
  | unsigned (n : UInt64)
  | negative (n : Int64)
  | float (x : F64)
  deriving DecidableEq, Repr

-- A parsed document. The keys of an object are in the order in which the parser keeps them.
inductive Json where
  | null
  | bool (value : Bool)
  | number (value : JsonNumber)
  | string (text : String)
  | array (items : List Json)
  | object (fields : List (String × Json))

namespace Json

def asObject : Json → Option (List (String × Json))
  | .object fields => some fields
  | _ => none

def asArray : Json → Option (List Json)
  | .array items => some items
  | _ => none

def asStr : Json → Option String
  | .string text => some text
  | _ => none

def asU64 : Json → Option UInt64
  | .number (.unsigned n) => some n
  | _ => none

def asI64 : Json → Option Int
  | .number (.unsigned n) => if n.toNat < 2^63 then some n.toNat else none
  | .number (.negative n) => some n.toInt
  | _ => none

-- `ofInt` rounds an integer to the nearest number.
def asF64 (ofInt : Int → F64) : Json → Option F64
  | .number (.unsigned n) => some (ofInt n.toNat)
  | .number (.negative n) => some (ofInt n.toInt)
  | .number (.float x) => some x
  | _ => none

def get (value : Json) (key : String) : Option Json := value.asObject.bind fun fields => fields.lookup key

def getStr (value : Json) (key : String) : Option String := (value.get key).bind asStr

def getArray (value : Json) (key : String) : Option (List Json) := (value.get key).bind asArray

def getU64 (value : Json) (key : String) : Option UInt64 := (value.get key).bind asU64

end Json
end Lucida.Lib
