import ValkeyOperator.TextScan

/-! How the server modules read the texts of INFO and CLUSTER INFO, and what their replies are made of. -/

set_option autoImplicit false

namespace ValkeyOperator
open TextScan

/-- The text behind the first occurrence of the field, if a colon follows it. -/
def fieldValue (info field : Text) : Option Text :=
  match strstr field info with
  | none => none
  | some p =>
    match p.drop field.length with
    | ':' :: value => some value
    | _ => none

def parseFieldLL (info field : Text) : Int :=
  match fieldValue info field with
  | none => -1
  | some value => atoll value

/-- The value up to the end of the line, cut to the buffer; the buffer starts empty. -/
def parseFieldStr (info field : Text) (buflen : Nat) : Text :=
  match fieldValue info field with
  | none => []
  | some value => (value.takeWhile (fun c => c ≠ '\r' && c ≠ '\n')).take (buflen - 1)

inductive ReplyElement where
  | string (text : Text)
  | integer (value : Int)
  deriving DecidableEq, Repr

end ValkeyOperator
