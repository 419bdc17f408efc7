import ReverseHttp.Wire
import Mathlib.Data.List.Nodup
import Mathlib.Tactic.Common

/-!
The parts of the Go standard library both roles stand on: decimal parsing
(strconv), `http.Header`, and the public side's `http.ResponseWriter`.

A header map is an association list; every iteration order of the Go map is
some list. Names are in canonical form, as the callers' are.
-/

namespace ReverseHttp.NetHttp

open Wire

section Strconv

def digit? (c : Char) : Option Nat :=
  if '0' ≤ c ∧ c ≤ '9' then some (c.toNat - '0'.toNat) else none

def decimalFrom : Nat → List Char → Option Nat
  | value, [] => some value
  | value, c :: rest => (digit? c).bind fun d => decimalFrom (value * 10 + d) rest

/-- A non-empty run of decimal digits. -/
def decimal? : List Char → Option Nat
  | [] => none
  | chars => decimalFrom 0 chars

/-- `strconv.ParseUint(s, 10, 63)`. -/
def parseUint63 (s : String) : Option Nat :=
  (decimal? s.toList).filter (· < 2 ^ 63)

/-- `strconv.ParseInt(s, 10, 64)`. -/
def parseInt64 (s : String) : Option Int :=
  match s.toList with
  | '-' :: rest => ((decimal? rest).filter (· ≤ 2 ^ 63)).map fun n => -(n : Int)
  | '+' :: rest => ((decimal? rest).filter (· < 2 ^ 63)).map Int.ofNat
  | chars => ((decimal? chars).filter (· < 2 ^ 63)).map Int.ofNat

def clampedFrom : Nat → List Char → Option Nat
  | value, [] => some value
  | value, c :: rest => (digit? c).bind fun d =>
      if value * 10 + d < 2 ^ 64 then clampedFrom (value * 10 + d) rest else some (2 ^ 64 - 1)

/-- `strconv.ParseUint(s, 10, 64)` with its range error dropped: nothing is looked at
after the digit that overflows. -/
def clamped? : List Char → Option Nat
  | [] => none
  | chars => clampedFrom 0 chars

/-- The value of `strconv.Atoi` with its error dropped: 0 on bad syntax, the
nearest 64-bit value out of range. -/
def atoi (s : String) : Int :=
  match s.toList with
  | '-' :: rest => max (-(((clamped? rest).getD 0 : Nat) : Int)) (-2 ^ 63)
  | '+' :: rest => min (((clamped? rest).getD 0 : Nat) : Int) (2 ^ 63 - 1)
  | chars => min (((clamped? chars).getD 0 : Nat) : Int) (2 ^ 63 - 1)

/-- `strconv.Itoa`. -/
def itoa (n : Int) : String := toString n

example : atoi "99999999999999999999x" = 2 ^ 63 - 1 ∧ atoi "9999999999999999999x" = 0 := by decide

end Strconv

section Textproto

/-- `validHeaderFieldByte`: the token characters of RFC 7230. -/
def isToken (c : Char) : Bool := c.isAlphanum || "!#$%&'*+-.^_`|~".toList.contains c

/-- `upper` is set for the first letter and after each dash. -/
def canonicalFrom : Bool → List Char → List Char
  | _, [] => []
  | upper, c :: rest =>
      let c := if upper then c.toUpper else c.toLower
      c :: canonicalFrom (c == '-') rest

/-- `textproto.CanonicalMIMEHeaderKey`: a name with any other character is
returned as it is. -/
def canonicalMIMEHeaderKey (name : String) : String :=
  if name.toList.all isToken then String.ofList (canonicalFrom true name.toList) else name

end Textproto

section Header

abbrev Header := List (String × List String)

def Header.values (h : Header) (name : String) : List String := (h.lookup name).getD []

def Header.has (h : Header) (name : String) : Bool := (h.lookup name).isSome

def Header.get (h : Header) (name : String) : String := (h.values name).headD ""

def Header.add : Header → String → String → Header
  | [], name, value => [(name, [value])]
  | (other, values) :: rest, name, value =>
      if other = name then (other, values ++ [value]) :: rest
      else (other, values) :: Header.add rest name value

def Header.del (h : Header) (name : String) : Header := h.filter fun entry => entry.1 ≠ name

/-- The builtin `clear`. -/
def Header.clear (_ : Header) : Header := []

def Header.set (h : Header) (name value : String) : Header := h.del name ++ [(name, [value])]

/-- `for k, vv := range src { for _, v := range vv { dst.Add(k, v) } }`. -/
def Header.copy (dst src : Header) : Header :=
  src.foldl (fun dst entry => entry.2.foldl (fun dst value => dst.add entry.1 value) dst) dst

/-- The map a decoded list of regular fields builds up. -/
def Header.ofFields (fields : List (String × String)) : Header :=
  fields.foldl (fun h field => h.add field.1 field.2) []

theorem Header.has_del (h : Header) (name : String) : (h.del name).has name = false := by
  simp only [Header.has, Header.del, Option.isSome_eq_false_iff, Option.isNone_iff_eq_none,
    List.lookup_eq_none_iff, List.mem_filter]
  rintro ⟨key, values⟩ ⟨-, different⟩
  have apart : key ≠ name := by simpa using different
  simpa using apart.symm

@[simp]
theorem Header.values_nil (name : String) : Header.values [] name = [] := rfl

theorem Header.values_cons (other name : String) (values : List String) (rest : Header) :
    Header.values ((other, values) :: rest) name =
      if name = other then values else Header.values rest name := by
  by_cases same : name = other
  · simp [Header.values, same]
  · simp [Header.values, List.lookup_cons, beq_false_of_ne same, same]

theorem Header.values_absent (h : Header) (name : String) (absent : name ∉ h.map Prod.fst) :
    h.values name = [] := by
  induction h with
  | nil => rfl
  | cons entry rest ih =>
      obtain ⟨key, values⟩ := entry
      simp only [List.map_cons, List.mem_cons, not_or] at absent
      rw [Header.values_cons, if_neg absent.1, ih absent.2]

theorem Header.values_add (h : Header) (name value other : String) :
    (h.add name value).values other =
      if other = name then h.values name ++ [value] else h.values other := by
  induction h with
  | nil => by_cases same : other = name <;> simp [Header.add, Header.values_cons, same]
  | cons entry rest ih =>
      obtain ⟨key, values⟩ := entry
      by_cases hit : key = name
      · subst hit
        by_cases same : other = key <;> simp [Header.add, Header.values_cons, same]
      · by_cases same : other = name
        · subst same
          simp [Header.add, hit, Header.values_cons, ih, Ne.symm hit]
        · by_cases atKey : other = key <;>
            simp [Header.add, hit, Header.values_cons, ih, same, atKey]

theorem Header.values_addAll (values : List String) (h : Header) (name other : String) :
    (values.foldl (fun h value => h.add name value) h).values other =
      if other = name then h.values name ++ values else h.values other := by
  induction values generalizing h with
  | nil => by_cases same : other = name <;> simp [same]
  | cons value rest ih =>
      rw [List.foldl_cons, ih]
      by_cases same : other = name <;> simp [Header.values_add, same]

/-- Copying a map with distinct keys appends its values name by name. -/
theorem Header.values_copy (dst src : Header) (name : String)
    (distinct : (src.map Prod.fst).Nodup) :
    (dst.copy src).values name = dst.values name ++ src.values name := by
  induction src generalizing dst with
  | nil => simp [Header.copy]
  | cons entry rest ih =>
      obtain ⟨key, values⟩ := entry
      obtain ⟨fresh, distinctRest⟩ := List.nodup_cons.mp distinct
      have tail := ih (values.foldl (fun dst value => dst.add key value) dst) distinctRest
      rw [Header.copy, List.foldl_cons]
      rw [Header.copy] at tail
      rw [tail, Header.values_addAll, Header.values_cons]
      by_cases same : name = key
      · subst same
        simp [Header.values_absent rest name fresh]
      · simp [same]

theorem Header.keys_add (h : Header) (name value : String) :
    (h.add name value).map Prod.fst =
      if name ∈ h.map Prod.fst then h.map Prod.fst else h.map Prod.fst ++ [name] := by
  induction h with
  | nil => simp [Header.add]
  | cons entry rest ih =>
      obtain ⟨key, values⟩ := entry
      by_cases hit : key = name
      · simp [Header.add, hit]
      · by_cases later : name ∈ rest.map Prod.fst
        · simp only [Header.add, hit, ↓reduceIte, List.map_cons, ih, later]
          simp [later]
        · simp only [Header.add, hit, ↓reduceIte, List.map_cons, ih, later]
          simp [later, Ne.symm hit]

theorem Header.nodup_add {h : Header} (name value : String) (distinct : (h.map Prod.fst).Nodup) :
    ((h.add name value).map Prod.fst).Nodup := by
  rw [Header.keys_add]
  split
  · exact distinct
  · rename_i fresh
    rw [List.nodup_append]
    refine ⟨distinct, List.nodup_singleton name, ?_⟩
    intro key member other single same
    rw [List.mem_singleton] at single
    exact fresh (single ▸ same ▸ member)

theorem Header.add_fresh (h : Header) (name value : String) (fresh : name ∉ h.map Prod.fst) :
    h.add name value = h ++ [(name, [value])] := by
  induction h with
  | nil => rfl
  | cons entry rest ih =>
      simp only [List.map_cons, List.mem_cons, not_or] at fresh
      simp [Header.add, Ne.symm fresh.1, ih fresh.2]

theorem Header.add_last (h : Header) (name value : String) (values : List String)
    (fresh : name ∉ h.map Prod.fst) :
    Header.add (h ++ [(name, values)]) name value = h ++ [(name, values ++ [value])] := by
  induction h with
  | nil => simp [Header.add]
  | cons entry rest ih =>
      simp only [List.map_cons, List.mem_cons, not_or] at fresh
      simp [Header.add, Ne.symm fresh.1, ih fresh.2]

/-- Values for a new key make one new entry. -/
theorem Header.addAll_fresh (h : Header) (name : String) (values : List String)
    (fresh : name ∉ h.map Prod.fst) :
    values.foldl (fun h value => h.add name value) h =
      if values = [] then h else h ++ [(name, values)] := by
  have appended : ∀ (more done : List String),
      more.foldl (fun h value => h.add name value) (h ++ [(name, done)]) =
        h ++ [(name, done ++ more)] := by
    intro more
    induction more with
    | nil => simp
    | cons value rest ih =>
        intro done
        rw [List.foldl_cons, Header.add_last h name value done fresh, ih]
        simp
  cases values with
  | nil => rfl
  | cons value rest =>
      rw [List.foldl_cons, Header.add_fresh h name value fresh, appended]
      simp

theorem Header.nodup_ofFields (fields : List (String × String)) :
    ((Header.ofFields fields).map Prod.fst).Nodup := by
  have general : ∀ h : Header, (h.map Prod.fst).Nodup →
      ((fields.foldl (fun h field => h.add field.1 field.2) h).map Prod.fst).Nodup := by
    induction fields with
    | nil => exact fun _ distinct => distinct
    | cons field rest ih =>
        exact fun h distinct => ih (h.add field.1 field.2) (Header.nodup_add _ _ distinct)
  exact general [] List.nodup_nil

end Header

section Url

def hexDigit? (c : UInt8) : Option UInt8 :=
  if 48 ≤ c ∧ c ≤ 57 then some (c - 48)
  else if 97 ≤ c ∧ c ≤ 102 then some (c - 87)
  else if 65 ≤ c ∧ c ≤ 70 then some (c - 55)
  else none

/-- `url.PathUnescape`; `none` is its `EscapeError`. -/
def pathUnescape : Bytes → Option Bytes
  | [] => some []
  | 37 :: high :: low :: rest => do
      let high ← hexDigit? high
      let low ← hexDigit? low
      return (16 * high + low) :: (← pathUnescape rest)
  | 37 :: _ => none
  | c :: rest => (pathUnescape rest).map (c :: ·)

end Url

section Response

/-- One public response. `final` is set by the first non-informational
`WriteHeader`, with a snapshot of the header map; `interim` lists the 1xx
responses sent before it. -/
structure Response where
  header : Header
  interim : List (Int × Header)
  final : Option (Int × Header)
  body : Bytes
  deriving DecidableEq

def Response.new : Response := ⟨[], [], none, []⟩

def bodyAllowedForStatus (status : Int) : Bool :=
  !(decide (100 ≤ status ∧ status ≤ 199)) && status != 204 && status != 304

def Informational (status : Int) : Prop := 100 ≤ status ∧ status ≤ 199 ∧ status ≠ 101

instance (status : Int) : Decidable (Informational status) :=
  inferInstanceAs (Decidable (_ ∧ _))

/-- `none` is the panic of `checkWriteHeaderCode`. 101 takes the final path. -/
def Response.writeHeader (w : Response) (code : Int) : Option Response :=
  if w.final.isSome then some w
  else if code < 100 ∨ 999 < code then none
  else if Informational code then some { w with interim := w.interim ++ [(code, w.header)] }
  else some { w with final := some (code, w.header) }

/-- The implicit `WriteHeader(200)` of a first `Write` and of a handler that
returns without one. -/
def Response.finish (w : Response) : Response :=
  { w with final := w.final.or (some (200, w.header)) }

/-- Whether a body of `size` bytes is acceptable: `ErrBodyNotAllowed` and
`ErrContentLength` otherwise. -/
def allowsBody (final : Int × Header) (size : Nat) : Bool :=
  size == 0 || bodyAllowedForStatus final.1 &&
    match parseInt64 (final.2.get "Content-Length") with
    | some declared => declared < 0 || (size : Int) ≤ declared
    | none => true

/-- `Write`, and whether it succeeded. -/
def Response.write (w : Response) (p : Bytes) : Bool × Response :=
  let w := w.finish
  if p = [] then (true, w)
  else if (w.final.map fun final => allowsBody final (w.body.length + p.length)).getD false then
    (true, { w with body := w.body ++ p })
  else (false, w)

/-- `http.Error`. -/
def Response.error (w : Response) (message : String) (code : Int) : Response :=
  let header := ((w.header.del "Content-Length").set "Content-Type"
    "text/plain; charset=utf-8").set "X-Content-Type-Options" "nosniff"
  { w with
    header := header
    final := w.final.or (some (code, header))
    body := w.body ++ (message ++ "\n").toUTF8.toList }

/-- The final head this response has, or will have if nothing sets another. -/
def Response.shown (w : Response) : Int × Header := w.final.getD (200, w.header)

theorem Response.finish_final (w : Response) : w.finish.final = some w.shown := by
  cases final : w.final <;> simp [Response.finish, Response.shown, final]

@[simp]
theorem Response.shown_finish (w : Response) : w.finish.shown = w.shown := by
  simp [Response.shown, Response.finish]

@[simp]
theorem Response.finish_body (w : Response) : w.finish.body = w.body := rfl

@[simp]
theorem Response.finish_header (w : Response) : w.finish.header = w.header := rfl

/-- Only the declared length of the header map matters. -/
theorem allowsBody_congr {status : Int} {header other : Header} (size : Nat)
    (same : ∀ name, header.values name = other.values name) :
    allowsBody (status, header) size = allowsBody (status, other) size := by
  simp [allowsBody, Header.get, same]

theorem allowsBody_zero (final : Int × Header) : allowsBody final 0 = true := rfl

theorem allowsBody_mono {final : Int × Header} {small large : Nat} (order : small ≤ large)
    (allowed : allowsBody final large = true) : allowsBody final small = true := by
  unfold allowsBody at *
  by_cases none : small = 0
  · simp [none]
  have some' : large ≠ 0 := by omega
  simp only [none, some', beq_iff_eq, Bool.or_eq_true, Bool.and_eq_true, false_or] at *
  refine ⟨allowed.1, ?_⟩
  cases declared : parseInt64 (final.2.get "Content-Length") with
  | none => rfl
  | some limit =>
      have fits := allowed.2
      simp only [declared, Bool.or_eq_true, decide_eq_true_eq] at fits ⊢
      omega

theorem write_accepted {w next : Response} {p : Bytes} (written : w.write p = (true, next)) :
    next.body = w.body ++ p ∧ next.shown = w.shown ∧ next.header = w.header ∧
      (p ≠ [] → allowsBody w.shown (w.body.length + p.length) = true) := by
  unfold Response.write at written
  by_cases nothing : p = []
  · simp only [nothing, ↓reduceIte, Prod.mk.injEq, true_and] at written
    subst written
    simp [nothing]
  · simp only [nothing, ↓reduceIte, Response.finish_final, Option.map_some, Option.getD_some,
      Response.finish_body] at written
    by_cases allowed : allowsBody w.shown (w.body.length + p.length) = true
    · rw [if_pos allowed] at written
      simp only [Prod.mk.injEq, true_and] at written
      subst written
      exact ⟨rfl, rfl, rfl, fun _ => allowed⟩
    · rw [if_neg allowed] at written
      simp at written

theorem write_refused {w next : Response} {p : Bytes} (written : w.write p = (false, next)) :
    next = w.finish ∧ p ≠ [] ∧ allowsBody w.shown (w.body.length + p.length) = false := by
  unfold Response.write at written
  by_cases nothing : p = []
  · simp [nothing] at written
  · simp only [nothing, ↓reduceIte, Response.finish_final, Option.map_some, Option.getD_some,
      Response.finish_body] at written
    by_cases allowed : allowsBody w.shown (w.body.length + p.length) = true
    · rw [if_pos allowed] at written
      simp at written
    · rw [if_neg allowed] at written
      simp only [Prod.mk.injEq, true_and] at written
      exact ⟨written.symm, nothing, by simpa using allowed⟩

end Response

end ReverseHttp.NetHttp
