/-
  The geometry contract: which GeoJSON objects are geometries, in WGS84 degrees or in normalized
  image coordinates.

  `validateGeojsonGeometry` raises a `ValueError` on the first thing it refuses, and lets the
  `OverflowError` of a coordinate too large for a float through.  Whether a type is allowed and
  whether the coordinates fit it are separate checks, so a geometry accepted among all the supported
  types is accepted among fewer exactly when its type is among these (`validate_narrow`).
-/
import FireviewerOrchestrator.Contracts.Python
import FireviewerOrchestrator.Library.Fallible

set_option linter.unusedVariables false

namespace FireviewerOrchestrator

/-! ## Reading JSON -/

/-- `fields.get(key)`, on an object's fields. -/
def getField (key : String) (fields : List (String × JsonValue)) : JsonValue :=
  (fields.lookup key).getD .null

/-- `isinstance(value, int | float)`; the booleans are integers. -/
def JsonValue.isNumber : JsonValue → Bool
  | .int _ | .float _ | .bool _ => true
  | _ => false

def JsonValue.isBool : JsonValue → Bool
  | .bool _ => true
  | _ => false

/-- The integers from `2^1024 - 2^970` on round to no finite float. -/
def floatOverflow : Nat := 2 ^ 1024 - 2 ^ 970

/-- `float(value)` of a number.  A finite float stands for the exact value. -/
def JsonValue.toFloat : JsonValue → Except PyExc FloatValue
  | .int n =>
      if n.natAbs < floatOverflow then .ok (.finite n)
      else .error (.raised "OverflowError" "int too large to convert to float")
  | .float v => .ok v
  | .bool b => .ok (.finite (if b then 1 else 0))
  | _ => .error (.raised "TypeError" "float() argument must be a string or a real number")

namespace FloatValue

/-- The value of a finite float (`isfinite`). -/
def finite? : FloatValue → Option ℚ
  | finite q => some q
  | _ => none

end FloatValue

/-! ## Geometries -/

namespace Geojson

/-- `SUPPORTED_GEOMETRY_TYPES`. -/
def supportedGeometryTypes : List String :=
  ["Point", "LineString", "MultiLineString", "Polygon", "MultiPolygon"]

/-- `if not condition: raise ValueError(message)`. -/
def ensure (condition : Bool) (message : String) : Except PyExc Unit :=
  if condition then .ok () else .error (.valueError message)

@[simp] theorem ensure_eq_ok {condition : Bool} {message : String} :
    ensure condition message = .ok () ↔ condition = true := by
  cases condition <;> simp [ensure]

theorem raisesOnly_ensure (condition : Bool) (message : String) :
    Fallible.RaisesOnly PyExc.IsValueError (ensure condition message) := by
  cases condition with
  | true => exact Fallible.raisesOnly_ok _
  | false => exact Fallible.raisesOnly_error.mpr ⟨message, rfl⟩

/-- The items of a list or tuple. -/
def items? : JsonValue → Option (List JsonValue)
  | .arr items => some items
  | _ => none

/-- The longitude and latitude, or the normalized `x` and `y`, are in their range. -/
def inRange (normalized : Bool) : List ℚ → Bool
  | x :: y :: _ =>
      if normalized then 0 ≤ x ∧ x ≤ 1 ∧ 0 ≤ y ∧ y ≤ 1
      else -180 ≤ x ∧ x ≤ 180 ∧ -90 ≤ y ∧ y ≤ 90
  | _ => false

/-- `_position`. -/
def position (normalized : Bool) (value : JsonValue) : Except PyExc (List ℚ) := do
  let items := (items? value).getD []
  ensure (items.length == 2 || items.length == 3)
    "GeoJSON positions require two or three coordinates"
  ensure (items.all fun item => item.isNumber && !item.isBool)
    "GeoJSON position coordinates must be finite numbers"
  let floats ← items.mapM JsonValue.toFloat
  match floats.mapM FloatValue.finite? with
  | none => .error (.valueError "GeoJSON position coordinates must be finite numbers")
  | some coordinates =>
      ensure (inRange normalized coordinates)
        (if normalized then "source geometry coordinates must be normalized"
          else "geographic geometry coordinates must use WGS84 longitude/latitude")
      pure coordinates

/-- `_line`. -/
def line (normalized : Bool) (value : JsonValue) : Except PyExc (List (List ℚ)) := do
  let items := (items? value).getD []
  ensure (2 ≤ items.length) "GeoJSON lines require at least two positions"
  items.mapM (position normalized)

/-- `_ring`. -/
def ring (normalized : Bool) (value : JsonValue) : Except PyExc (List (List ℚ)) := do
  let positions ← line normalized value
  ensure (4 ≤ positions.length && positions.head? == positions.getLast?)
    "GeoJSON polygon rings must contain four positions and be closed"
  pure positions

/-- `for member in value: check(member)`, over a list that must not be empty. -/
def members (message : String) (check : JsonValue → Except PyExc Unit) (value : JsonValue) :
    Except PyExc Unit := do
  let items := (items? value).getD []
  ensure (!items.isEmpty) message
  items.forM check

def checkLine (normalized : Bool) (value : JsonValue) : Except PyExc Unit := do
  let _ ← line normalized value
  pure ()

def checkRing (normalized : Bool) (value : JsonValue) : Except PyExc Unit := do
  let _ ← ring normalized value
  pure ()

/-- The coordinates fit the geometry's type. -/
def validateCoordinates (normalized : Bool) (geometryType : String) (coordinates : JsonValue) :
    Except PyExc Unit :=
  if geometryType = "Point" then do
    let _ ← position normalized coordinates
    pure ()
  else if geometryType = "LineString" then checkLine normalized coordinates
  else if geometryType = "MultiLineString" then
    members "GeoJSON MultiLineString requires at least one line" (checkLine normalized) coordinates
  else if geometryType = "Polygon" then
    members "GeoJSON Polygon requires at least one ring" (checkRing normalized) coordinates
  else
    members "GeoJSON MultiPolygon requires at least one polygon"
      (members "GeoJSON MultiPolygon members require at least one ring" (checkRing normalized)) coordinates

/-- `value.get("type")`, when it is a text. -/
def geometryType? (fields : List (String × JsonValue)) : Option String :=
  match getField "type" fields with
  | .str t => some t
  | _ => none

def isNull : JsonValue → Bool
  | .null => true
  | _ => false

/-- `validate_geojson_geometry`, on an object. -/
def validateGeojsonGeometry (fields : List (String × JsonValue))
    (allowedTypes : List String) (normalized : Bool) : Except PyExc Unit :=
  match geometryType? fields with
  | none => .error (.valueError "geometry type is not allowed for this proposal")
  | some geometryType => do
      ensure (geometryType ∈ allowedTypes) "geometry type is not allowed for this proposal"
      ensure (!isNull (getField "coordinates" fields)) "GeoJSON geometry requires coordinates"
      validateCoordinates normalized geometryType (getField "coordinates" fields)

/-! ### Type and coordinates are checked apart -/

section Validate

variable {fields : List (String × JsonValue)} {allowedTypes : List String} {normalized : Bool}

theorem validate_eq_ok : validateGeojsonGeometry fields allowedTypes normalized = .ok () ↔
    ∃ t ∈ allowedTypes, geometryType? fields = some t ∧ isNull (getField "coordinates" fields) = false ∧
      validateCoordinates normalized t (getField "coordinates" fields) = .ok () := by
  unfold validateGeojsonGeometry
  cases geometryType? fields with
  | none =>
    constructor
    · intro h
      cases h
    · rintro ⟨t, -, h, -⟩
      cases h
  | some t =>
    simp only [Fallible.check_bind_eq_ok, ensure_eq_ok, decide_eq_true_eq, Bool.not_eq_true']
    constructor
    · rintro ⟨ht, hnull, hcoordinates⟩
      exact ⟨t, ht, rfl, hnull, hcoordinates⟩
    · rintro ⟨t', ht, heq, hnull, hcoordinates⟩
      obtain rfl := Option.some.inj heq
      exact ⟨ht, hnull, hcoordinates⟩

/-- A geometry has one of the allowed types. -/
theorem type_of_validate (h : validateGeojsonGeometry fields allowedTypes normalized = .ok ()) :
    ∃ t ∈ allowedTypes, geometryType? fields = some t := by
  obtain ⟨t, ht, htype, -⟩ := validate_eq_ok.mp h
  exact ⟨t, ht, htype⟩

/-- **Narrowing.**  Among fewer types only the type is still checked. -/
theorem validate_narrow {supported : List String}
    (h : validateGeojsonGeometry fields supported normalized = .ok ()) :
    validateGeojsonGeometry fields allowedTypes normalized = .ok () ↔
      ∃ t ∈ allowedTypes, geometryType? fields = some t := by
  refine ⟨type_of_validate, ?_⟩
  rintro ⟨t, ht, htype⟩
  obtain ⟨t', -, htype', hnull, hcoordinates⟩ := validate_eq_ok.mp h
  have heq : t' = t := Option.some.inj (htype'.symm.trans htype)
  rw [heq] at hcoordinates
  exact validate_eq_ok.mpr ⟨t, ht, htype, hnull, hcoordinates⟩

/-- A type that is not allowed is refused as such. -/
theorem validate_of_type_not_allowed (h : ∀ t ∈ allowedTypes, geometryType? fields ≠ some t) :
    validateGeojsonGeometry fields allowedTypes normalized
      = .error (.valueError "geometry type is not allowed for this proposal") := by
  unfold validateGeojsonGeometry
  cases htype : geometryType? fields with
  | none => rfl
  | some t =>
    have hnot : decide (t ∈ allowedTypes) = false := by
      rw [decide_eq_false_iff_not]
      exact fun ht => h t ht htype
    simp only [ensure, hnot, Bool.false_eq_true, if_false]
    rfl

/-- Once its coordinates were read, a geometry is only refused for its type. -/
theorem raisesOnly_validate_narrow {supported : List String}
    (h : validateGeojsonGeometry fields supported normalized = .ok ()) :
    Fallible.RaisesOnly PyExc.IsValueError (validateGeojsonGeometry fields allowedTypes normalized) := by
  by_cases htype : ∃ t ∈ allowedTypes, geometryType? fields = some t
  · rw [(validate_narrow h).mpr htype]
    exact Fallible.raisesOnly_ok _
  · rw [validate_of_type_not_allowed fun t ht heq => htype ⟨t, ht, heq⟩]
    exact Fallible.raisesOnly_error.mpr ⟨_, rfl⟩

end Validate

/-- `{"type": "Point", "coordinates": [x, y]}`. -/
def pointGeometry (x y : ℚ) : List (String × JsonValue) :=
  [("type", .str "Point"), ("coordinates", .arr [.ofRat x, .ofRat y])]

end Geojson

end FireviewerOrchestrator
