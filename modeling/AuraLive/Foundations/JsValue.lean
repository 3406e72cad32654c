import Mathlib.Data.Rat.Defs
import Mathlib.Tactic.Common

set_option relaxedAutoImplicit false
set_option autoImplicit false

/-!
# Parsed JSON values

The values `JSON.parse` returns, with the two operations dynamically typed code applies to them:
reading a property, which throws on `null` and gives `undefined` when there is none, and the
truth test behind `||`. A thrown `TypeError` and `undefined` are both `none`s, at different
levels.

## Main definitions

* `Foundations.JsVal` — a parsed JSON value.
* `Foundations.JsVal.field` — property access `v.name`.
* `Foundations.JsVal.truthy` — the truth test on a value that may be `undefined`.
-/

namespace Foundations

/-- A value returned by `JSON.parse`. Numbers are the exact values of the parsed doubles. -/
inductive JsVal where
  | null
  | bool (b : Bool)
  | num (q : ℚ)
  | str (s : String)
  | arr (l : List JsVal)
  | obj (fields : List (String × JsVal))

namespace JsVal

/-- The property of an object, `undefined` (`none`) when it has no such property; other values
have no properties of their own. Access on `null` throws and is excluded by `isNull` first. -/
def field (v : JsVal) (name : String) : Option JsVal :=
  match v with
  | obj fields => (fields.find? fun e => e.1 = name).map Prod.snd
  | _ => none

/-- Whether property access on the value throws a `TypeError`. -/
def isNull : JsVal → Bool
  | null => true
  | _ => false

/-- The truth test on a value or `undefined`. -/
def truthy : Option JsVal → Bool
  | none => false
  | some null => false
  | some (bool b) => b
  | some (num q) => q ≠ 0
  | some (str s) => s ≠ ""
  | some (arr _) => true
  | some (obj _) => true

/-- `v || d`: the value if it is truthy, else the default. -/
def orElse (v : Option JsVal) (d : JsVal) : JsVal :=
  match v with
  | none => d
  | some x => if truthy (some x) then x else d

/-- `v === 'text'`. -/
def isStr (v : Option JsVal) (text : String) : Bool :=
  match v with
  | some (str s) => s = text
  | _ => false

/-- The string a value is, if it is one. -/
def asStr : JsVal → Option String
  | str s => some s
  | _ => none

/-- The elements of an array. -/
def asArr : JsVal → Option (List JsVal)
  | arr l => some l
  | _ => none

end JsVal

end Foundations
