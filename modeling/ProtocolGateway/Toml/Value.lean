/-!
# TOML values

What a configuration file holds, once its syntax is understood. The items of a table keep the order
in which the file introduces them. Moments are recognised but not read, as nothing asks for one.
-/

namespace ProtocolGateway.Toml

/-- A number with a fraction or an exponent. -/
inductive Fractional where
  /-- Plus or minus `digits * 10 ^ exponent`. -/
  | finite (negative : Bool) (digits : Nat) (exponent : Int)
  | infinite (negative : Bool)
  | notANumber
deriving DecidableEq, Repr

/-- A value of a configuration file. -/
inductive Value where
  | string (text : List Char)
  | integer (n : Int)
  | float (x : Fractional)
  | boolean (b : Bool)
  /-- A date, a time of day, or both. -/
  | moment
  | array (items : List Value)
  | table (items : List (List Char × Value))
  /-- The tables under double-bracketed headers of one name. -/
  | tables (items : List Value)
deriving Inhabited

end ProtocolGateway.Toml
