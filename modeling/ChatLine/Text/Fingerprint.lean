set_option autoImplicit false

/- Fingerprints of texts: equal texts have equal fingerprints, and the fingerprint of a stretch follows
from those of what begins with it and of what comes after it. A search compares the fingerprint of
what it looks for with those of all stretches, and the characters only where they agree. -/
namespace ChatLine.Text

/-- What the fingerprint of the characters after one is multiplied with. -/
def fingerprintFactor : UInt32 := 0x9E3779B1

def fingerprint : List Char → UInt32
  | [] => 0
  | c :: rest => c.val + fingerprintFactor * fingerprint rest

/-- How much the fingerprint of what comes after some characters counts. -/
def fingerprintWeight : List Char → UInt32
  | [] => 1
  | _ :: rest => fingerprintFactor * fingerprintWeight rest

/-- The fingerprints of the characters from each place on, the end included. -/
def fingerprints (chars : List Char) : List UInt32 :=
  chars.foldr (fun c after => (c.val + fingerprintFactor * after.headD 0) :: after) [0]

theorem fingerprint_append (front back : List Char) :
    fingerprint (front ++ back) = fingerprint front + fingerprintWeight front * fingerprint back := by
  induction front with
  | nil => simp [fingerprint, fingerprintWeight]
  | cons c rest ih =>
    simp only [List.cons_append, fingerprint, fingerprintWeight, ih, UInt32.mul_add,
      UInt32.mul_assoc, UInt32.add_assoc]

theorem fingerprints_cons (c : Char) (rest : List Char) :
    (fingerprints (c :: rest)).tail = fingerprints rest := rfl

theorem tail_drop_fingerprints (count : Nat) (c : Char) (rest : List Char) :
    ((fingerprints (c :: rest)).drop count).tail = (fingerprints rest).drop count := by
  rw [List.tail_drop, ← List.drop_tail, fingerprints_cons]

theorem head?_fingerprints (chars : List Char) :
    (fingerprints chars).head? = some (fingerprint chars) := by
  induction chars with
  | nil => rfl
  | cons c rest ih =>
    have first : (fingerprints rest).headD 0 = fingerprint rest := by
      rw [List.headD_eq_head?_getD, ih]; rfl
    have opened : fingerprints (c :: rest) =
        (c.val + fingerprintFactor * (fingerprints rest).headD 0) :: fingerprints rest := rfl
    rw [opened, first]
    rfl

theorem drop_fingerprints {count : Nat} {chars : List Char} (enough : count ≤ chars.length) :
    (fingerprints chars).drop count = fingerprints (chars.drop count) := by
  induction count generalizing chars with
  | zero => rfl
  | succ count ih =>
    cases chars with
    | nil => simp at enough
    | cons c rest =>
      have fewer : count ≤ rest.length := by simpa using enough
      rw [← List.drop_tail, fingerprints_cons, ih fewer, List.drop_succ_cons]

end ChatLine.Text
