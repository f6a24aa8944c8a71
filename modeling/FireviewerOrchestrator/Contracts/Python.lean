/-
  The values of the host language that the contracts and the stages exchange: exceptions (with the
  distinctions the `except` clauses of the orchestrator make), datetimes, JSON values, and `round`.

  Finite floats are exact rationals.  `FloatValue` adds the values only a parser can produce.
-/
import FireviewerOrchestrator.Library.Fallible
import Mathlib.Algebra.Order.Floor.Defs
import Mathlib.Data.List.Dedup
import Mathlib.Data.List.Sort
import Mathlib.Data.Rat.Floor
import Mathlib.Data.String.Basic

namespace FireviewerOrchestrator

/-! ## Exceptions -/

/-- An exception, as far as the `except` clauses tell exceptions apart.  The four named classes are
    the ones handlers name; `raised` is any other subclass of `Exception` under its type's name;
    `exit` is what `except Exception` lets through (`KeyboardInterrupt`, `SystemExit`). -/
inductive PyExc where
  | modelOutputError (message : String)
  | outputValidationError (message : String)
  | validationError (model message : String)
  | registryError (message : String)
  | raised (typeName message : String)
  | exit (typeName : String)
  deriving DecidableEq, Repr

namespace PyExc

/-- `except Exception`. -/
def isException : PyExc → Bool
  | exit _ => false
  | _ => true

/-- `except ModelOutputError`. -/
def isModelOutput : PyExc → Bool
  | modelOutputError _ => true
  | _ => false

/-- `except (ModelOutputError, OutputValidationError)`: the answer came, but the closed contract
    refuses it. -/
def isRefusedOutput : PyExc → Bool
  | modelOutputError _ => true
  | outputValidationError _ => true
  | _ => false

def IsValidation (e : PyExc) : Prop := ∃ model message, e = .validationError model message

theorem isException_of_isRefusedOutput {e : PyExc} (h : e.isRefusedOutput = true) :
    e.isException = true := by
  cases e <;> first | rfl | cases h

def runtimeError (message : String) : PyExc := raised "RuntimeError" message
def valueError (message : String) : PyExc := raised "ValueError" message
def IsValueError (e : PyExc) : Prop := ∃ message, e = .raised "ValueError" message

def assertionError : PyExc := raised "AssertionError" ""
def indexError : PyExc := raised "IndexError" "tuple index out of range"
def keyError (key : String) : PyExc := raised "KeyError" key

end PyExc

/-! ## Datetimes, JSON, sorting, rounding -/

/-- A datetime: its instant in microseconds, and whether it carries a timezone. -/
structure DateTime where
  micros : Int
  aware : Bool
  deriving DecidableEq, Repr

/-- What a JSON number with a fraction or an exponent (or `NaN`, `Infinity`) can parse to. -/
inductive FloatValue where
  | finite (value : ℚ)
  | posInf
  | negInf
  | nan
  deriving DecidableEq, Repr

/-- A JSON value as the host language holds it (objects keep their insertion order). -/
inductive JsonValue where
  | null
  | bool (value : Bool)
  | int (value : Int)
  | float (value : FloatValue)
  | str (value : String)
  | arr (items : List JsonValue)
  | obj (fields : List (String × JsonValue))

namespace JsonValue

instance : Inhabited JsonValue := ⟨null⟩

def ofOptionString : Option String → JsonValue
  | none => null
  | some s => str s

def ofStrings (values : List String) : JsonValue := arr (values.map str)

def ofRat (q : ℚ) : JsonValue := float (.finite q)

/-- `{**fields, key: value}` on an object's fields: in place when present, at the end otherwise. -/
def setField (key : String) (value : JsonValue) : List (String × JsonValue) → List (String × JsonValue)
  | [] => [(key, value)]
  | f :: fs => if f.1 = key then (key, value) :: fs else f :: setField key value fs

end JsonValue

/-! ## Texts

  `hmac.compare_digest` has no timing here, but it raises: neither text may have another than ASCII
  characters. -/

/-- `text.isascii()`. -/
def isAsciiText (text : String) : Bool := text.toList.all fun c => decide (c.toNat < 128)

/-- `hmac.compare_digest`. -/
def compareDigest (a b : String) : Except PyExc Bool :=
  if isAsciiText a ∧ isAsciiText b then .ok (a = b)
  else .error (.raised "TypeError" "comparing strings with non-ASCII characters is not supported")

theorem compareDigest_eq_ok {a b : String} {same : Bool} :
    compareDigest a b = .ok same ↔ isAsciiText a = true ∧ isAsciiText b = true ∧ same = decide (a = b) := by
  unfold compareDigest
  rw [Fallible.ite_eq_ok, and_assoc]
  constructor
  · rintro ⟨ha, hb, hsame⟩
    exact ⟨ha, hb, (Except.ok.inj hsame).symm⟩
  · rintro ⟨ha, hb, rfl⟩
    exact ⟨ha, hb, rfl⟩

theorem compareDigest_foreign {a b : String} (h : isAsciiText b = false) : ∃ message,
    compareDigest a b = .error (.raised "TypeError" message) :=
  ⟨_, if_neg (by simp [h])⟩

/-! ## Absent values

  What a contract asks of an optional field holds of a field that is not there. -/

theorem absent_aware : ∀ t ∈ (none : Option DateTime), t.aware = true := nofun

theorem absent_together : (none : Option ℚ).isSome = (none : Option ℚ).isSome := rfl

/-- `sorted(set(values))`. -/
def sortedDistinct {α : Type} [LinearOrder α] (values : List α) : List α :=
  values.dedup.insertionSort (· ≤ ·)

@[simp] theorem mem_sortedDistinct {α : Type} [LinearOrder α] {values : List α} {a : α} :
    a ∈ sortedDistinct values ↔ a ∈ values := by
  rw [sortedDistinct, List.mem_insertionSort, List.mem_dedup]

theorem pairwise_sortedDistinct {α : Type} [LinearOrder α] (values : List α) :
    (sortedDistinct values).Pairwise (· < ·) := by
  have hsorted : (sortedDistinct values).Pairwise (· ≤ ·) := List.pairwise_insertionSort _ _
  have hnodup : (sortedDistinct values).Nodup :=
    (List.perm_insertionSort _ _).nodup_iff.mpr (List.nodup_dedup values)
  exact (hsorted.and hnodup).imp fun h => lt_of_le_of_ne h.1 h.2

/-- `round(q)`: to the nearest integer, halves to the even one. -/
def roundHalfEven (q : ℚ) : ℤ :=
  let below := ⌊q⌋
  let rest := q - below
  if rest < 1 / 2 then below
  else if 1 / 2 < rest then below + 1
  else if below % 2 = 0 then below
  else below + 1

/-- `round((finish - start) * 1_000)`: the milliseconds between two readings of the timer. -/
def elapsedMs (start finish : ℚ) : ℤ := roundHalfEven ((finish - start) * 1000)

end FireviewerOrchestrator
