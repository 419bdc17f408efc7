import ReverseHttp.ServeStream

/-!
The request target from `:path` to `r.URL` and back. `escapedPath` and `requestURI` are
`URL.EscapedPath` and `URL.RequestURI` of net/url for a URL without an opaque part;
`parseRequestURI` never sets `ForceQuery`. `legal` is the URI grammar for a path with an
optional query.
-/

namespace ReverseHttp.RequestTarget

open Wire NetHttp ServeStream

def percent : UInt8 := 37

/-! net/url -/

def isAlphanum (c : UInt8) : Bool :=
  (97 ≤ c && c ≤ 122) || (65 ≤ c && c ≤ 90) || (48 ≤ c && c ≤ 57)

def bytesOf (s : String) : Bytes := s.toList.map Char.toUInt8

/-- `shouldEscape` in the mode `encodePath`. -/
def shouldEscape (c : UInt8) : Bool :=
  !(isAlphanum c || (bytesOf "-_.~").contains c || (bytesOf "$&+,/:;=@").contains c)

def validEncoded (s : Bytes) : Bool :=
  s.all fun c => (bytesOf "!$&'()*+,;=:@").contains c || (bytesOf "[]").contains c ||
    c == percent || !shouldEscape c

def upperHex (digit : UInt8) : UInt8 := if digit < 10 then 48 + digit else 55 + digit

def escape (s : Bytes) : Bytes :=
  s.flatMap fun c =>
    if shouldEscape c then [percent, upperHex (c / 16), upperHex (c % 16)] else [c]

def escapedPath (u : URL) : Bytes :=
  if u.rawPath ≠ [] ∧ validEncoded u.rawPath ∧ pathUnescape u.rawPath = some u.path then u.rawPath
  else if u.path = [star] then [star]
  else escape u.path

def requestURI (forceQuery : Bool) (u : URL) : Bytes :=
  let result := if escapedPath u = [] then [slash] else escapedPath u
  if forceQuery ∨ u.rawQuery ≠ [] then result ++ question :: u.rawQuery else result

/-! The specification. -/

/-- Percent-decoding. -/
inductive Decodes : Bytes → Bytes → Prop where
  | nil : Decodes [] []
  | plain {c : UInt8} {rest decoded : Bytes} (literal : c ≠ percent)
      (tail : Decodes rest decoded) : Decodes (c :: rest) (c :: decoded)
  | escaped {high low h l : UInt8} {rest decoded : Bytes} (first : hexDigit? high = some h)
      (second : hexDigit? low = some l) (tail : Decodes rest decoded) :
      Decodes (percent :: high :: low :: rest) ((16 * h + l) :: decoded)

/-- The two bytes after a percent sign are hexadecimal digits. -/
def EscapeFollows : Bytes → Prop
  | high :: low :: _ => (hexDigit? high).isSome ∧ (hexDigit? low).isSome
  | _ => False

/-- Some percent sign does not start an escape. -/
def Malformed (path : Bytes) : Prop :=
  ∃ front back, path = front ++ percent :: back ∧ ¬ EscapeFollows back

/-- Unreserved characters, sub-delimiters and `:@/?`. -/
def isTargetByte (c : UInt8) : Bool :=
  isAlphanum c || (bytesOf "-._~!$&'()*+,;=:@/?").contains c

def legal : Bytes → Bool
  | [] => true
  | 37 :: high :: low :: rest => (hexDigit? high).isSome && (hexDigit? low).isSome && legal rest
  | c :: rest => isTargetByte c && legal rest

def pathPart (raw : Bytes) : Bytes := raw.takeWhile (· ≠ question)

def queryPart (raw : Bytes) : Bytes := (raw.dropWhile (· ≠ question)).drop 1

/-- A query that is announced is not empty, and a path with one of `!'()*` is `*` or
has an escape too. -/
def Preserved (raw : Bytes) : Prop :=
  (question ∈ raw → queryPart raw ≠ []) ∧
    (raw = [star] ∨ percent ∈ pathPart raw ∨ ∀ c ∈ pathPart raw, c ∉ bytesOf "!'()*")

instance decidablePreserved (raw : Bytes) : Decidable (Preserved raw) :=
  inferInstanceAs (Decidable ((question ∈ raw → queryPart raw ≠ []) ∧
    (raw = [star] ∨ percent ∈ pathPart raw ∨ ∀ c ∈ pathPart raw, c ∉ bytesOf "!'()*")))

/-! Decoding. -/

theorem pathUnescape_iff {path decoded : Bytes} :
    pathUnescape path = some decoded ↔ Decodes path decoded := by
  constructor
  · intro found
    fun_induction pathUnescape path generalizing decoded with
    | case1 =>
        cases found
        exact .nil
    | case2 high low rest ih =>
        simp only [Option.bind_eq_bind, Option.bind_eq_some_iff, Option.pure_def,
          Option.some.injEq] at found
        obtain ⟨h, first, l, second, tail, decodedTail, rfl⟩ := found
        exact .escaped first second (ih decodedTail)
    | case3 => cases found
    | case4 c rest short other ih =>
        obtain ⟨tail, decodedTail, rfl⟩ := Option.map_eq_some_iff.mp found
        exact .plain other (ih decodedTail)
  · intro decodes
    induction decodes with
    | nil => rfl
    | @plain c rest decoded literal tail ih =>
        have other : c ≠ 37 := literal
        simp [pathUnescape, other, ih]
    | escaped first second tail ih => simp [percent, pathUnescape, first, second, ih]

/-- A percent sign is no hexadecimal digit, so it can only start an escape. -/
theorem Decodes.escapeFollows {path decoded : Bytes} (decodes : Decodes path decoded)
    {front back : Bytes} (cut : path = front ++ percent :: back) : EscapeFollows back := by
  induction decodes generalizing front with
  | nil => simp at cut
  | plain literal tail ih =>
      cases front with
      | nil =>
          obtain ⟨same, -⟩ := List.cons.inj cut
          exact absurd same literal
      | cons first front =>
          obtain ⟨-, later⟩ := List.cons.inj cut
          exact ih later
  | escaped first second tail ih =>
      match front with
      | [] =>
          obtain ⟨-, rfl⟩ := List.cons.inj cut
          exact ⟨by simp [first], by simp [second]⟩
      | [_] =>
          simp only [List.cons_append, List.nil_append, List.cons.injEq] at cut
          obtain ⟨-, rfl, -⟩ := cut
          cases first
      | [_, _] =>
          simp only [List.cons_append, List.nil_append, List.cons.injEq] at cut
          obtain ⟨-, -, rfl, -⟩ := cut
          cases second
      | _ :: _ :: _ :: front =>
          simp only [List.cons_append, List.cons.injEq] at cut
          exact ih cut.2.2.2

theorem malformed_rejected {path : Bytes} (malformed : Malformed path) :
    pathUnescape path = none := by
  obtain ⟨front, back, cut, broken⟩ := malformed
  cases found : pathUnescape path with
  | none => rfl
  | some decoded => exact absurd ((pathUnescape_iff.mp found).escapeFollows cut) broken

/-- Decoding is the identity exactly where there is nothing to decode. -/
theorem Decodes.length_le {path decoded : Bytes} (decodes : Decodes path decoded) :
    decoded.length ≤ path.length := by
  induction decodes with
  | nil => exact Nat.le_refl _
  | plain literal tail ih => exact Nat.succ_le_succ ih
  | escaped first second tail ih =>
      simp only [List.length_cons]
      omega

theorem Decodes.same_iff {path decoded : Bytes} (decodes : Decodes path decoded) :
    decoded = path ↔ percent ∉ path := by
  induction decodes with
  | nil => simp
  | plain literal tail ih => simp [ih, Ne.symm literal]
  | escaped first second tail ih =>
      have shorter := tail.length_le
      refine ⟨fun same => ?_, fun absent => absurd List.mem_cons_self absent⟩
      have lengths := congrArg List.length same
      simp only [List.length_cons] at lengths
      omega

/-! Legal targets. -/

theorem legal_decodes {raw : Bytes} (ok : legal raw = true) : ∃ decoded, Decodes raw decoded := by
  fun_induction legal raw with
  | case1 => exact ⟨[], .nil⟩
  | case2 high low rest ih =>
      simp only [Bool.and_eq_true] at ok
      obtain ⟨h, first⟩ := Option.isSome_iff_exists.mp ok.1.1
      obtain ⟨l, second⟩ := Option.isSome_iff_exists.mp ok.1.2
      obtain ⟨decoded, tail⟩ := ih ok.2
      exact ⟨_, .escaped first second tail⟩
  | case3 c rest other ih =>
      simp only [Bool.and_eq_true] at ok
      obtain ⟨decoded, tail⟩ := ih ok.2
      refine ⟨c :: decoded, .plain ?_ tail⟩
      rintro rfl
      exact absurd ok.1 (by decide)

theorem hexDigit_alphanum {c : UInt8} (digit : (hexDigit? c).isSome = true) :
    isAlphanum c = true := by
  unfold hexDigit? at digit
  unfold isAlphanum
  simp only [UInt8.le_iff_toNat_le, Bool.or_eq_true, Bool.and_eq_true, decide_eq_true_eq] at *
  split at digit
  · exact .inr ‹_›
  · split at digit
    · next range => exact .inl (.inl ⟨range.1, range.2.trans (by decide)⟩)
    · split at digit
      · next range => exact .inl (.inr ⟨range.1, range.2.trans (by decide)⟩)
      · cases digit

theorem isTargetByte_of_alphanum {c : UInt8} (plain : isAlphanum c = true) :
    isTargetByte c = true := by
  simp [isTargetByte, plain]

theorem legal_bytes {raw : Bytes} (ok : legal raw = true) :
    ∀ c ∈ raw, isTargetByte c = true ∨ c = percent := by
  fun_induction legal raw with
  | case1 => simp
  | case2 high low rest ih =>
      simp only [Bool.and_eq_true] at ok
      intro c member
      simp only [List.mem_cons] at member
      rcases member with rfl | rfl | rfl | later
      · exact .inr rfl
      · exact .inl (isTargetByte_of_alphanum (hexDigit_alphanum ok.1.1))
      · exact .inl (isTargetByte_of_alphanum (hexDigit_alphanum ok.1.2))
      · exact ih ok.2 c later
  | case3 c rest other ih =>
      simp only [Bool.and_eq_true] at ok
      intro d member
      rcases List.mem_cons.mp member with rfl | later
      · exact .inl ok.1
      · exact ih ok.2 d later

theorem hexDigit_ne_question {c digit : UInt8} (hex : hexDigit? c = some digit) :
    c ≠ question := by
  rintro rfl
  cases hex

/-- The path of a target that decodes, decodes too: no escape reaches over the `?`. -/
theorem Decodes.pathPart {raw decoded : Bytes} (decodes : Decodes raw decoded) :
    ∃ path, Decodes (RequestTarget.pathPart raw) path := by
  unfold RequestTarget.pathPart
  induction decodes with
  | nil => exact ⟨[], .nil⟩
  | @plain c rest decoded literal tail ih =>
      by_cases stop : c = question
      · exact ⟨[], by simpa [stop] using Decodes.nil⟩
      · obtain ⟨path, later⟩ := ih
        exact ⟨c :: path, by simpa [stop] using Decodes.plain literal later⟩
  | @escaped high low h l rest decoded first second tail ih =>
      obtain ⟨path, later⟩ := ih
      have mark : percent ≠ question := by decide
      refine ⟨(16 * h + l) :: path, ?_⟩
      simpa [mark, hexDigit_ne_question first, hexDigit_ne_question second] using
        Decodes.escaped first second later

theorem pathPart_ne_question {raw : Bytes} {c : UInt8} (member : c ∈ pathPart raw) :
    c ≠ question := by
  simpa using List.all_eq_true.mp List.all_takeWhile c member

/-! Re-serialising. -/

theorem shouldEscape_target {c : UInt8} (target : isTargetByte c = true)
    (inPath : c ≠ question) (plain : c ∉ bytesOf "!'()*") : shouldEscape c = false := by
  have marks : ∀ c ∈ bytesOf "-._~!$&'()*+,;=:@/?", c ≠ question → c ∉ bytesOf "!'()*" →
      shouldEscape c = false := by decide +kernel
  rcases Bool.or_eq_true _ _ ▸ target with alphanum | mark
  · simp [shouldEscape, alphanum]
  · exact marks c (by simpa using mark) inPath plain

theorem validEncoded_target {s : Bytes}
    (bytes : ∀ c ∈ s, (isTargetByte c = true ∨ c = percent) ∧ c ≠ question) :
    validEncoded s = true := by
  unfold validEncoded
  rw [List.all_eq_true]
  intro c member
  obtain ⟨kind, inPath⟩ := bytes c member
  rcases kind with target | rfl
  · by_cases plain : c ∈ bytesOf "!'()*"
    · have marks : ∀ c ∈ bytesOf "!'()*", (bytesOf "!$&'()*+,;=:@").contains c = true := by
        decide +kernel
      simp only [marks c plain, Bool.true_or]
    · simp only [shouldEscape_target target inPath plain, Bool.not_false, Bool.or_true]
  · simp

/-- An escape makes three bytes of one. -/
theorem escape_length (s : Bytes) :
    (escape s).length = s.length + 2 * s.countP (fun c => shouldEscape c) := by
  unfold escape
  induction s with
  | nil => rfl
  | cons c rest ih =>
      cases escaped : shouldEscape c with
      | true =>
          simp only [List.flatMap_cons, escaped, ↓reduceIte, List.cons_append, List.nil_append,
            List.length_cons, ih, List.countP_cons]
          omega
      | false =>
          simp only [List.flatMap_cons, escaped, Bool.false_eq_true, ↓reduceIte, List.cons_append,
            List.nil_append, List.length_cons, ih, List.countP_cons]
          omega

theorem escape_eq_iff {s : Bytes} : escape s = s ↔ ∀ c ∈ s, shouldEscape c = false := by
  constructor
  · intro same c member
    have size := escape_length s
    rw [same] at size
    have none : s.countP (fun c => shouldEscape c) = 0 := by omega
    simpa using List.countP_eq_zero.mp none c member
  · intro plain
    unfold escape
    induction s with
    | nil => rfl
    | cons c rest ih =>
        rw [List.flatMap_cons, ih fun other member => plain other (List.mem_cons_of_mem c member),
          plain c List.mem_cons_self]
        rfl

theorem raw_split (raw : Bytes) :
    raw = pathPart raw ++ if question ∈ raw then question :: queryPart raw else [] := by
  unfold pathPart queryPart
  induction raw with
  | nil => simp
  | cons c rest ih =>
      by_cases stop : c = question
      · simp [stop]
      · have more : question ∈ c :: rest ↔ question ∈ rest := by simp [Ne.symm stop]
        simp only [more]
        simpa [stop] using ih

theorem queryPart_absent {raw : Bytes} (absent : question ∉ raw) : queryPart raw = [] := by
  unfold queryPart
  induction raw with
  | nil => rfl
  | cons c rest ih =>
      simp only [List.mem_cons, not_or] at absent
      simpa [Ne.symm absent.1] using ih absent.2

/-- What `parseRequestURI` returns, by whether the path has an escape. -/
theorem parse_some {raw path : Bytes} (start : raw.head? = some slash ∨ raw = [star])
    (decodes : Decodes (pathPart raw) path) :
    parseRequestURI raw = some (if percent ∈ pathPart raw then ⟨path, pathPart raw, queryPart raw⟩
      else ⟨path, [], queryPart raw⟩) := by
  have accepted : ¬ (raw = [] ∨ (raw.head? ≠ some slash ∧ raw ≠ [star])) := by
    rintro (rfl | ⟨notSlash, notStar⟩)
    · simp at start
    · exact start.elim notSlash notStar
  have found : pathUnescape (raw.takeWhile (· ≠ question)) = some path :=
    pathUnescape_iff.mpr decodes
  have same : path = raw.takeWhile (· ≠ question) ↔ percent ∉ pathPart raw := decodes.same_iff
  unfold parseRequestURI
  simp only [accepted, ↓reduceIte, found, Option.map_some, Option.some.injEq]
  by_cases escaped : percent ∈ pathPart raw
  · rw [if_pos escaped, if_pos fun equal => same.mp equal escaped]
    rfl
  · rw [if_neg escaped, if_neg (not_not.mpr (same.mpr escaped))]
    rw [← same.mpr escaped]
    rfl

/-- The path that is serialised: the one received where `RawPath` keeps it. -/
def serialised (path : Bytes) : Bytes :=
  if percent ∈ path ∨ path = [star] then path else escape path

theorem pathPart_bytes {raw : Bytes} (ok : legal raw = true) :
    ∀ c ∈ pathPart raw, (isTargetByte c = true ∨ c = percent) ∧ c ≠ question :=
  fun c member => ⟨legal_bytes ok c (List.takeWhile_subset _ member), pathPart_ne_question member⟩

theorem escapedPath_parsed {raw path : Bytes} (ok : legal raw = true)
    (decodes : Decodes (pathPart raw) path) :
    escapedPath (if percent ∈ pathPart raw then ⟨path, pathPart raw, queryPart raw⟩
      else ⟨path, [], queryPart raw⟩) = serialised (pathPart raw) := by
  by_cases escaped : percent ∈ pathPart raw
  · have full : pathPart raw ≠ [] := List.ne_nil_of_mem escaped
    simp only [escaped, ↓reduceIte, escapedPath, serialised, true_or]
    rw [if_pos ⟨full, validEncoded_target (pathPart_bytes ok), pathUnescape_iff.mpr decodes⟩]
  · have same : path = pathPart raw := decodes.same_iff.mpr escaped
    simp only [escaped, ↓reduceIte, escapedPath, serialised, ne_eq, not_true_eq_false, false_and,
      same, false_or]
    split
    · exact Eq.symm ‹_›
    · rfl

theorem serialised_length (path : Bytes) :
    ∃ escapes, (serialised path).length = path.length + 2 * escapes := by
  unfold serialised
  split
  · exact ⟨0, rfl⟩
  · exact ⟨_, escape_length path⟩

/-- The path comes back as it was where it is kept, or where nothing in it would be
escaped. -/
theorem serialised_eq_iff {raw : Bytes} (ok : legal raw = true)
    (start : raw.head? = some slash ∨ raw = [star]) :
    serialised (pathPart raw) = pathPart raw ↔
      (raw = [star] ∨ percent ∈ pathPart raw ∨ ∀ c ∈ pathPart raw, c ∉ bytesOf "!'()*") := by
  have marks : ∀ c ∈ bytesOf "!'()*", shouldEscape c = true := by decide +kernel
  constructor
  · intro same
    unfold serialised at same
    split at same
    · rename_i kept
      rcases kept with escaped | starred
      · exact .inr (.inl escaped)
      · refine .inl (start.resolve_left fun slashed => ?_)
        obtain ⟨rest, rfl⟩ := List.head?_eq_some_iff.mp slashed
        simp [pathPart, slash, question, ServeStream.star] at starred
    · refine .inr (.inr fun c member mark => ?_)
      exact absurd (marks c mark) (by simp [escape_eq_iff.mp same c member])
  · rintro (rfl | escaped | plain)
    · rfl
    · exact if_pos (.inl escaped)
    · unfold serialised
      split
      · rfl
      · rename_i rewritten
        refine escape_eq_iff.mpr fun c member => ?_
        obtain ⟨target | rfl, inPath⟩ := pathPart_bytes ok c member
        · exact shouldEscape_target target inPath (plain c member)
        · exact absurd (.inl member) rewritten

theorem pathPart_ne_nil {raw : Bytes} (start : raw.head? = some slash ∨ raw = [star]) :
    pathPart raw ≠ [] := by
  cases raw with
  | nil => simp at start
  | cons c rest =>
      have first : c ≠ question := by
        rcases start with slashed | starred
        · cases slashed
          decide
        · cases starred
          decide
      simp [pathPart, first]

theorem requestURI_parsed {raw path : Bytes} (start : raw.head? = some slash ∨ raw = [star])
    (ok : legal raw = true) (decodes : Decodes (pathPart raw) path) :
    requestURI false (if percent ∈ pathPart raw then ⟨path, pathPart raw, queryPart raw⟩
      else ⟨path, [], queryPart raw⟩) =
      serialised (pathPart raw) ++ if queryPart raw ≠ [] then question :: queryPart raw else [] := by
  have query : (if percent ∈ pathPart raw then (⟨path, pathPart raw, queryPart raw⟩ : URL)
      else ⟨path, [], queryPart raw⟩).rawQuery = queryPart raw := by
    split <;> rfl
  have full : serialised (pathPart raw) ≠ [] := by
    obtain ⟨escapes, size⟩ := serialised_length (pathPart raw)
    have some := List.length_pos_iff.mpr (pathPart_ne_nil start)
    exact List.length_pos_iff.mp (by omega)
  simp only [requestURI, escapedPath_parsed ok decodes, full, query, ↓reduceIte,
    Bool.false_eq_true, false_or]
  split
  · rfl
  · rw [List.append_nil]

theorem requestURI_eq_iff {raw path : Bytes} (start : raw.head? = some slash ∨ raw = [star])
    (ok : legal raw = true) (decodes : Decodes (pathPart raw) path) :
    requestURI false (if percent ∈ pathPart raw then ⟨path, pathPart raw, queryPart raw⟩
      else ⟨path, [], queryPart raw⟩) = raw ↔ Preserved raw := by
  rw [requestURI_parsed start ok decodes, Preserved, ← serialised_eq_iff ok start]
  have cut := raw_split raw
  by_cases asked : question ∈ raw
  · rw [if_pos asked] at cut
    by_cases empty : queryPart raw = []
    · -- an escape adds two bytes, never the one of the lost `?`
      obtain ⟨escapes, size⟩ := serialised_length (pathPart raw)
      rw [if_neg (not_not.mpr empty), List.append_nil]
      refine ⟨fun same => ?_, fun preserved => absurd empty (preserved.1 asked)⟩
      have sizes := congrArg List.length (same.trans cut)
      rw [List.length_append, List.length_cons, empty, List.length_nil] at sizes
      omega
    · rw [if_pos empty]
      constructor
      · intro same
        exact ⟨fun _ => empty, List.append_cancel_right (same.trans cut)⟩
      · rintro ⟨-, same⟩
        rw [same]
        exact cut.symm
  · rw [if_neg asked, List.append_nil] at cut
    rw [if_neg (not_not.mpr (queryPart_absent asked)), List.append_nil]
    constructor
    · intro same
      exact ⟨fun there => absurd there asked, same.trans cut⟩
    · rintro ⟨-, same⟩
      exact same.trans cut.symm

theorem parse_path {raw : Bytes} {u : URL} (parsed : parseRequestURI raw = some u) :
    Decodes (pathPart raw) u.path := by
  unfold parseRequestURI at parsed
  split at parsed
  · cases parsed
  · obtain ⟨decoded, found, rfl⟩ := Option.map_eq_some_iff.mp parsed
    have decodes : Decodes (pathPart raw) decoded := pathUnescape_iff.mp found
    split
    · exact decodes
    · next same =>
        rw [not_not] at same
        rwa [same] at decodes

theorem parse_rejects {raw : Bytes}
    (bad : raw = [] ∨ (raw.head? ≠ some slash ∧ raw ≠ [star]) ∨ Malformed (pathPart raw)) :
    parseRequestURI raw = none := by
  unfold parseRequestURI
  rcases bad with empty | badStart | malformed
  · rw [if_pos (.inl empty)]
  · rw [if_pos (.inr badStart)]
  · have broken : pathUnescape (raw.takeWhile (· ≠ question)) = none :=
      malformed_rejected malformed
    simp only [broken, Option.map_none, ite_self]

/-- A legal target is accepted, and given back byte for byte exactly where its query is
not an empty one and its path is not rewritten by the default encoding. The path is
always decoded, and everything else is rejected. -/
theorem request_target_preserved (raw : Bytes) :
    (legal raw = true → (raw.head? = some slash ∨ raw = [star]) →
      ∃ u, parseRequestURI raw = some u ∧ (requestURI false u = raw ↔ Preserved raw)) ∧
    (∀ u, parseRequestURI raw = some u → Decodes (pathPart raw) u.path) ∧
    (raw = [] ∨ (raw.head? ≠ some slash ∧ raw ≠ [star]) ∨ Malformed (pathPart raw) →
      parseRequestURI raw = none) := by
  refine ⟨?_, fun u parsed => parse_path parsed, parse_rejects⟩
  intro ok start
  obtain ⟨decoded, whole⟩ := legal_decodes ok
  obtain ⟨path, decodes⟩ := whole.pathPart
  exact ⟨_, parse_some start decodes, requestURI_eq_iff start ok decodes⟩

/-- `/a%20(b)?q=1` -/
def escapedTarget : Bytes := bytesOf "/a%20(b)?q=1"

theorem request_target_preserved_escaped :
    (∃ u, parseRequestURI escapedTarget = some u ∧ requestURI false u = escapedTarget ∧
      Decodes (pathPart escapedTarget) u.path) ∧
    parseRequestURI (bytesOf "/%4") = none := by
  obtain ⟨accepted, decoded, -⟩ := request_target_preserved escapedTarget
  obtain ⟨u, parsed, back⟩ := accepted (by decide +kernel) (.inl (by decide +kernel))
  obtain ⟨-, -, rejected⟩ := request_target_preserved (bytesOf "/%4")
  refine ⟨⟨u, parsed, back.mpr (by decide +kernel), decoded u parsed⟩,
    rejected (.inr (.inr ?_))⟩
  exact ⟨[slash], [52], by decide +kernel, fun follows => follows⟩

/-- `/a?` comes back as `/a`, and `/a(b)` as `/a%28b%29`. -/
theorem request_target_changed :
    ¬ ∀ (raw : Bytes) (u : URL), legal raw = true → raw.head? = some slash →
      parseRequestURI raw = some u → requestURI false u = raw := by
  intro preserved
  have changed := preserved (bytesOf "/a?") ⟨bytesOf "/a", [], []⟩ (by decide +kernel)
    (by decide +kernel) (by decide +kernel)
  exact absurd changed (by decide +kernel)

example : (parseRequestURI (bytesOf "/a(b)")).map (requestURI false) =
    some (bytesOf "/a%28b%29") := by decide +kernel

end ReverseHttp.RequestTarget
