import EnvAudit.Document.Value
import EnvAudit.Proofs.Json.Value
/-!
# Kinds of documents

What a document is taken for before anything of it is read: a blank says nothing (`isTruthy_eq_false_iff`), a map has
entries, and a JSON value is made of what JSON has a form for.
-/
namespace EnvAudit

/-! ## Blank values -/

/-- What says nothing: null, false, zero, and what is empty. -/
inductive IsBlank : Value → Prop
  | null : IsBlank .null
  | false : IsBlank (.bool false)
  | zero : IsBlank (.int 0)
  | numZero {x : Float} (h : (x == 0.0) = true) : IsBlank (.num x)
  | text : IsBlank (.text [])
  | bytes : IsBlank (.scalar (.bytes []))
  | list : IsBlank (.list [])
  | map : IsBlank (.map [])
  | members : IsBlank (.members [])

theorem isTruthy_eq_false_iff {v : Value} : v.isTruthy = false ↔ IsBlank v := by
  constructor
  · intro h
    match v with
    | .scalar .null => exact .null
    | .scalar (.bool false) => exact .false
    | .scalar (.int n) =>
      obtain rfl : n = 0 := by simpa [Value.isTruthy, Scalar.isTruthy] using h
      exact .zero
    | .scalar (.num x) => exact .numZero (by simpa [Value.isTruthy, Scalar.isTruthy] using h)
    | .scalar (.text []) => exact .text
    | .scalar (.bytes []) => exact .bytes
    | .list [] => exact .list
    | .map [] => exact .map
    | .members [] => exact .members
  · intro h
    cases h with
    | numZero h => simpa [Value.isTruthy, Scalar.isTruthy] using h
    | _ => rfl

theorem isTruthy_of_not_isBlank {v : Value} (h : ¬ IsBlank v) : v.isTruthy = true :=
  eq_true_of_ne_false fun hfalsy => h (isTruthy_eq_false_iff.1 hfalsy)

/-! ## Shapes -/

def Value.IsMap (v : Value) : Prop := ∃ es, v = .map es

def Value.IsText (v : Value) : Prop := ∃ t, v = .text t

/-- What JSON has a form for, with integers of any length.  Names may repeat; the first is the one that is looked up. -/
inductive IsJsonValue : Value → Prop
  | null : IsJsonValue .null
  | bool (b : Bool) : IsJsonValue (.bool b)
  | int (n : Int) : IsJsonValue (.int n)
  | num (x : Float) : IsJsonValue (.num x)
  | text (t : Text) : IsJsonValue (.text t)
  | list {vs : List Value} (h : ∀ v ∈ vs, IsJsonValue v) : IsJsonValue (.list vs)
  | map {es : Entries} (hnames : ∀ e ∈ es, ∃ t, e.1 = .text t) (hvalues : ∀ e ∈ es, IsJsonValue e.2) :
      IsJsonValue (.map es)

theorem mem_of_getText? {es : Entries} {k : Text} {v : Value} (h : es.getText? k = some v) : ∃ e ∈ es, e.2 = v := by
  obtain ⟨e, he, rfl⟩ := Option.map_eq_some_iff.1 h
  exact ⟨e, List.mem_of_find?_eq_some he, rfl⟩

theorem IsJsonValue.getText? {es : Entries} (h : IsJsonValue (.map es)) {k : Text} {v : Value}
    (hv : es.getText? k = some v) : IsJsonValue v := by
  cases h with
  | map _ hvalues =>
    obtain ⟨e, he, rfl⟩ := mem_of_getText? hv
    exact hvalues e he

theorem isJson_of_mem_jsonItems {levels : Nat} : ∀ {vs : List Value}, JsonItems levels vs → ∀ v ∈ vs, v.IsJson levels
  | [], _, _, h => nomatch h
  | _ :: _, ⟨hv, hvs⟩, _, h => by
    rcases List.mem_cons.1 h with rfl | h
    · exact hv
    · exact isJson_of_mem_jsonItems hvs _ h

theorem isText_of_mem_jsonMembers {levels : Nat} : ∀ {es : Entries}, JsonMembers levels es → ∀ e ∈ es, e.1.IsText
  | [], _, _, h => nomatch h
  | (_, _) :: _, ⟨hk, _, _, hes⟩, _, h => by
    rcases List.mem_cons.1 h with rfl | h
    · exact hk
    · exact isText_of_mem_jsonMembers hes _ h

/-- What is read from a text in JSON is a JSON value. -/
theorem isJsonValue_of_isJson : ∀ {levels : Nat} (v : Value), v.IsJson levels → IsJsonValue v
  | _, .scalar .null, _ => .null
  | _, .scalar (.bool b), _ => .bool b
  | _, .scalar (.int n), _ => .int n
  | _, .scalar (.num x), _ => .num x
  | _, .scalar (.text t), _ => .text t
  | _ + 1, .list _, h => .list fun v hv => isJsonValue_of_isJson v (isJson_of_mem_jsonItems h v hv)
  | _ + 1, .map _, h => .map (isText_of_mem_jsonMembers h) fun e he =>
      isJsonValue_of_isJson e.2 (isJson_of_mem_jsonMembers h e he)

end EnvAudit
