import ReverseHttp.ForwardedHeader
import ReverseHttp.RequestTarget

/-!
The head of a request from the public server to the worker's handler: what `openForward`
makes of an `http.Request`, the header block on the tunnel, and the `http.Request` that
`serveStream` builds from it. A Go string is a sequence of bytes; where the codec has a
`String`, each character stands for one byte.
-/

namespace ReverseHttp.RequestHead

open Transition Wire NetHttp ServeStream RequestTarget HeaderCodec ForwardedHeader
open HeaderBlocks (DecodedHeaders)

/-! ## The target -/

/-- `escape` writes the two halves of a byte. -/
theorem nibbles (c : UInt8) : c / 16 < 16 ∧ c % 16 < 16 ∧ 16 * (c / 16) + c % 16 = c := by
  have bound := c.toNat_lt
  refine ⟨?_, ?_, ?_⟩
  · rw [UInt8.lt_iff_toNat_lt, UInt8.toNat_div]
    show c.toNat / 16 < 16
    omega
  · rw [UInt8.lt_iff_toNat_lt, UInt8.toNat_mod]
    exact Nat.mod_lt _ (by decide)
  · rw [← UInt8.toNat_inj, UInt8.toNat_add, UInt8.toNat_mul, UInt8.toNat_div, UInt8.toNat_mod]
    show (16 * (c.toNat / 16) % 256 + c.toNat % 16) % 256 = c.toNat
    omega

theorem upperHex_spec {digit : UInt8} (small : digit < 16) :
    hexDigit? (upperHex digit) = some digit ∧ upperHex digit ≠ question := by
  have all : ∀ n : Fin 16, hexDigit? (upperHex (UInt8.ofNat n)) = some (UInt8.ofNat n) ∧
      upperHex (UInt8.ofNat n) ≠ question := by decide
  have here := all ⟨digit.toNat, UInt8.lt_iff_toNat_lt.mp small⟩
  rwa [UInt8.ofNat_toNat] at here

/-- `PathUnescape` undoes the default encoding. -/
theorem escape_decodes (s : Bytes) : Decodes (escape s) s := by
  induction s with
  | nil => exact .nil
  | cons c rest ih =>
      simp only [escape, List.flatMap_cons] at ih ⊢
      split
      · obtain ⟨high, low, whole⟩ := nibbles c
        have decodes := Decodes.escaped (upperHex_spec high).1 (upperHex_spec low).1 ih
        rw [whole] at decodes
        exact decodes
      · rename_i plain
        refine .plain (fun same => plain ?_) ih
        rw [same]
        decide

theorem escape_no_question (s : Bytes) : question ∉ escape s := by
  intro member
  obtain ⟨c, -, made⟩ := List.mem_flatMap.mp member
  obtain ⟨high, low, -⟩ := nibbles c
  split at made
  · simp only [List.mem_cons, List.not_mem_nil, or_false] at made
    rcases made with sign | first | second
    · exact absurd sign (by decide)
    · exact (upperHex_spec high).2 first.symm
    · exact (upperHex_spec low).2 second.symm
  · rename_i plain
    rw [← List.mem_singleton.mp made] at plain
    exact plain (by decide)

theorem validEncoded_no_question {s : Bytes} (valid : validEncoded s = true) : question ∉ s := by
  intro member
  have here := List.all_eq_true.mp valid question member
  exact absurd here (by decide)

/-- Whichever encoding `EscapedPath` takes, it is one of the path. -/
theorem escapedPath_spec (u : URL) :
    Decodes (escapedPath u) u.path ∧ question ∉ escapedPath u := by
  unfold escapedPath
  split
  · rename_i kept
    exact ⟨pathUnescape_iff.mp kept.2.2, validEncoded_no_question kept.2.1⟩
  · split
    · rename_i options
      rw [options]
      exact ⟨.plain (by decide) .nil, by decide⟩
    · exact ⟨escape_decodes u.path, escape_no_question u.path⟩

/-- A path from the root, or the `*` of an OPTIONS request. -/
structure Rooted (forceQuery : Bool) (u : URL) : Prop where
  path : u.path.head? = some slash ∨ u.path = [star] ∧ u.rawQuery = [] ∧ forceQuery = false
  rawPath : u.rawPath = [] ∨ u.rawPath.head? = some slash

theorem escape_rooted {s : Bytes} (slashed : s.head? = some slash) :
    (escape s).head? = some slash := by
  cases s with
  | nil => cases slashed
  | cons c rest =>
      obtain rfl := Option.some.inj slashed
      rfl

theorem escapedPath_rooted {forceQuery : Bool} {u : URL} (rooted : Rooted forceQuery u) :
    (escapedPath u).head? = some slash ∨
      escapedPath u = [star] ∧ u.rawQuery = [] ∧ forceQuery = false := by
  unfold escapedPath
  split
  · rename_i kept
    exact Or.inl (rooted.rawPath.resolve_left kept.1)
  · split
    · rename_i options
      rcases rooted.path with slashed | ⟨-, plain⟩
      · rw [options] at slashed
        exact absurd slashed (by decide)
      · exact Or.inr ⟨rfl, plain⟩
    · rename_i other
      exact Or.inl (escape_rooted (rooted.path.resolve_right fun options => other options.1))

theorem pathPart_append {path tail : Bytes} (clean : question ∉ path)
    (cut : tail = [] ∨ ∃ query, tail = question :: query) :
    pathPart (path ++ tail) = path ∧ queryPart (path ++ tail) = tail.drop 1 := by
  have plain : ∀ c ∈ path, decide (c ≠ question) = true := by
    intro c member
    exact decide_eq_true fun same => clean (same ▸ member)
  unfold pathPart queryPart
  rw [List.takeWhile_append_of_pos plain, List.dropWhile_append_of_pos plain]
  rcases cut with rfl | ⟨query, rfl⟩ <;> simp

/-- What the worker parses is the path and the query of the public URL, however they were
encoded. -/
theorem parse_requestURI {forceQuery : Bool} {u : URL} (rooted : Rooted forceQuery u) :
    ∃ v, parseRequestURI (requestURI forceQuery u) = some v ∧ v.path = u.path ∧
      v.rawQuery = u.rawQuery := by
  obtain ⟨decodes, clean⟩ := escapedPath_spec u
  have root := escapedPath_rooted rooted
  have nonempty : escapedPath u ≠ [] := by
    rcases root with slashed | ⟨starred, -⟩
    · intro empty
      simp [empty] at slashed
    · simp [starred]
  have parses : ∀ tail, (tail = [] ∨ ∃ query, tail = question :: query) →
      (escapedPath u ++ tail).head? = some slash ∨ escapedPath u ++ tail = [star] →
      ∃ v, parseRequestURI (escapedPath u ++ tail) = some v ∧ v.path = u.path ∧
        v.rawQuery = tail.drop 1 := by
    intro tail cut start
    obtain ⟨pathSame, querySame⟩ := pathPart_append clean cut
    refine ⟨_, parse_some start (by rwa [pathSame]), ?_⟩
    rw [pathSame, querySame]
    split <;> exact ⟨rfl, rfl⟩
  have head : ∀ tail, (escapedPath u).head? = some slash →
      (escapedPath u ++ tail).head? = some slash := by
    intro tail slashed
    rw [List.head?_append, slashed]
    rfl
  simp only [requestURI, if_neg nonempty]
  split
  · rename_i asked
    refine parses _ (Or.inr ⟨_, rfl⟩) (Or.inl (head _ (root.resolve_right ?_)))
    rintro ⟨-, noQuery, unforced⟩
    simp [noQuery, unforced] at asked
  · rename_i bare
    have noQuery : u.rawQuery = [] := by
      simp only [not_or, not_not] at bare
      exact bare.2
    have plain := parses [] (Or.inl rfl) (by simpa using root.imp id And.left)
    rw [noQuery]
    simpa using plain

/-! ## The request -/

/-- What `openForward` reads of an `http.Request`. `bodyless` is `Body == nil` or
`Body == http.NoBody`. -/
structure PublicRequest where
  method : String
  host : String
  urlHost : String
  url : URL
  forceQuery : Bool
  tls : Bool
  header : HeaderMap
  bodyless : Bool
  contentLength : Int

def textOf (s : Bytes) : String := String.ofList (s.map fun c => Char.ofNat c.toNat)

namespace PublicRequest

variable (req : PublicRequest)

def bodyEmpty : Bool := req.bodyless || req.contentLength == 0

def authority : String := if req.host = "" then req.urlHost else req.host

def path : Bytes :=
  let path := requestURI req.forceQuery req.url
  if path = [] then [slash] else path

def scheme : String := if req.tls then "https" else "http"

end PublicRequest

theorem nodup_addEntry {h : Header} (distinct : (h.map Prod.fst).Nodup)
    (entry : String × List String) : ((addEntry h entry).map Prod.fst).Nodup := by
  unfold addEntry
  split
  · exact distinct
  · induction entry.2 generalizing h with
    | nil => exact distinct
    | cons value rest ih => exact ih (Header.nodup_add _ value distinct)

theorem nodup_built (pooled header : Header) :
    ((buildForwardedHeader pooled header).map Prod.fst).Nodup := by
  have general : ∀ h : Header, (h.map Prod.fst).Nodup →
      ((header.foldl addEntry h).map Prod.fst).Nodup := by
    induction header with
    | nil => exact fun _ distinct => distinct
    | cons entry rest ih => exact fun h distinct => ih _ (nodup_addEntry distinct entry)
  exact general pooled.clear List.nodup_nil

/-- The HEADERS intent of `openForward`. -/
def openForward (req : PublicRequest) (pooled : Header) (streamID : StreamID) : Message :=
  .request streamID req.method req.scheme req.authority (textOf req.path)
    ⟨buildForwardedHeader pooled req.header.1, nodup_built pooled req.header.1⟩ req.bodyEmpty

/-- The `http.Request` a handler is called with, without its body. -/
structure HandlerRequest where
  method : String
  url : URL
  requestURI : Bytes
  header : Header
  host : String
  deriving DecidableEq

/-- The start of `serveStream`; `none` is its RST_STREAM(PROTOCOL_ERROR). -/
def serveStream (decoded : DecodedHeaders) : Option HandlerRequest :=
  (parseRequestURI (bytesOf decoded.path)).map fun url =>
    { method := decoded.method
      url := url
      requestURI := bytesOf decoded.path
      header := decoded.header
      host := decoded.authority }

theorem bytesOf_textOf (s : Bytes) : bytesOf (textOf s) = s := by
  simp only [bytesOf, textOf, String.toList_ofList, List.map_map]
  conv_rhs => rw [← List.map_id s]
  refine List.map_congr_left fun c _ => ?_
  have all : ∀ n : Fin 256, (Char.ofNat n).toUInt8 = UInt8.ofNat n := by decide +kernel
  have here := all ⟨c.toNat, c.toNat_lt⟩
  rwa [UInt8.ofNat_toNat] at here

theorem path_requestURI {req : PublicRequest} (rooted : Rooted req.forceQuery req.url) :
    req.path = requestURI req.forceQuery req.url := by
  obtain ⟨v, parsed, -⟩ := parse_requestURI rooted
  refine if_neg fun empty => ?_
  rw [empty] at parsed
  cases parsed

/-- Neither of the two filters drops a header that is not on the proxy's list. -/
theorem values_sent (pooled : Header) {header : HeaderMap} (canonical : CanonicalNames header.1)
    (name : String) :
    (forwarded (buildForwardedHeader pooled header.1)).values name =
      if isHopByHop name then [] else header.1.values name := by
  have keys : CanonicalKeys header.1 := by
    intro key member
    obtain ⟨entry, inside, rfl⟩ := List.mem_map.mp member
    exact (canonical entry inside).2
  rw [values_forwarded (nodup_built pooled header.1), values_built pooled header.2 keys]
  by_cases hop : isHopByHop name = true
  · simp [hop]
  · by_cases listed : name ∈ header.1.map Prod.fst
    · rw [not_forbidden (keys name listed) (by simpa using hop)]
      rfl
    · rw [Header.values_absent _ _ listed]
      simp

theorem canonical_built (pooled : Header) {header : Header} (canonical : CanonicalNames header) :
    CanonicalNames (buildForwardedHeader pooled header) := by
  have keys : CanonicalKeys header := by
    intro key member
    obtain ⟨entry, inside, rfl⟩ := List.mem_map.mp member
    exact (canonical entry inside).2
  intro entry inside
  rw [buildForwardedHeader, foldl_addEntry header _ keys] at inside
  rcases mem_keys_copy (List.mem_map_of_mem inside) with old | kept
  · cases old
  · obtain ⟨source, member, same⟩ := List.mem_map.mp kept
    rw [← same]
    exact canonical source (List.mem_filter.mp member).1

/-- What the handler's request keeps of the public one. -/
structure SameRequest (req : PublicRequest) (seen : HandlerRequest) : Prop where
  method : seen.method = req.method
  host : seen.host = req.authority
  path : seen.url.path = req.url.path
  query : seen.url.rawQuery = req.url.rawQuery
  requestURI : seen.requestURI = RequestTarget.requestURI req.forceQuery req.url
  fields : ∀ name, seen.header.values name =
    if isHopByHop name then [] else req.header.1.values name

theorem expected_request {req : PublicRequest} (rooted : Rooted req.forceQuery req.url)
    (canonical : CanonicalNames req.header.1) (pooled : Header) (streamID : StreamID) :
    ∃ seen, serveStream (expected (openForward req pooled streamID)) = some seen ∧
      SameRequest req seen := by
  obtain ⟨url, parsed, path, query⟩ := parse_requestURI rooted
  have target : bytesOf (textOf req.path) = requestURI req.forceQuery req.url := by
    rw [bytesOf_textOf, path_requestURI rooted]
  refine ⟨⟨req.method, url, requestURI req.forceQuery req.url,
    forwarded (buildForwardedHeader pooled req.header.1), req.authority⟩, ?_,
    ⟨rfl, rfl, path, query, rfl, values_sent pooled canonical⟩⟩
  simp only [serveStream, expected, openForward, target, parsed, Option.map_some]

/-- The block that crosses last is decoded to what its message asks for. -/
theorem headers_decoded {Enc Dec : Type} {hpack : Hpack Enc Dec} {paired : Enc → Dec → Prop}
    (lossless : Lossless hpack paired) {st next : HeaderCodec.State Enc Dec} {message : Message}
    {scratch : Header} (valid : HeaderCodec.Valid paired st)
    (canonical : CanonicalNames message.header.1)
    (crossed : HeaderCodec.step hpack st (.headers message scratch) = some next) :
    next.received = st.received ++ [.ok (expected message)] := by
  have later := headers_valid lossless valid crossed
  obtain ⟨-, rfl⟩ := enabled crossed
  obtain ⟨same, -⟩ := List.forall₂_iff_get.mp valid.delivered
  obtain ⟨-, all⟩ := List.forall₂_iff_get.mp later.delivered
  have last := all st.sent.length (by simp) (by simp [same])
  simp only [List.get_eq_getElem, List.getElem_concat_length] at last
  have decoded := last canonical
  simp only [same, List.getElem_concat_length] at decoded
  rw [decoded]

/-- On a tunnel with any history of header blocks in front of it, a request reaches the
handler with its method, host, path, query and end-to-end headers. -/
theorem request_head_preserved {Enc Dec : Type} (hpack : Hpack Enc Dec) (paired : Enc → Dec → Prop)
    (lossless : Lossless hpack paired) (enc : Enc) (dec : Dec) (inStep : paired enc dec)
    (trace : List HeaderCodec.Action) (st next : HeaderCodec.State Enc Dec)
    (ran : run (HeaderCodec.step hpack) (HeaderCodec.State.new enc dec) trace = some st)
    (req : PublicRequest) (rooted : Rooted req.forceQuery req.url)
    (canonical : CanonicalNames req.header.1) (pooled scratch : Header) (streamID : StreamID)
    (crossed : HeaderCodec.step hpack st (.headers (openForward req pooled streamID) scratch) =
      some next) :
    ∃ decoded seen, next.received = st.received ++ [.ok decoded] ∧ decoded.streamID = streamID ∧
      decoded.endStream = req.bodyEmpty ∧ serveStream decoded = some seen ∧
      SameRequest req seen := by
  have fresh : HeaderCodec.Valid paired (HeaderCodec.State.new enc dec) :=
    ⟨commonLowerNames_sound, commonCanonNames_sound, inStep, .nil⟩
  have valid : HeaderCodec.Valid paired st :=
    run_invariant_all (fun _ _ _ valid stepped => HeaderCodec.step_valid lossless valid stepped)
      fresh ran
  obtain ⟨seen, served, same⟩ := expected_request rooted canonical pooled streamID
  have names : CanonicalNames (openForward req pooled streamID).header.1 :=
    canonical_built pooled canonical
  exact ⟨_, seen, headers_decoded lossless valid names crossed, rfl, rfl, served, same⟩

/-- `POST /a%20b(c)?x=1`, of which the default encoding makes `/a%20b%28c%29?x=1`. -/
def submission : PublicRequest :=
  { method := "POST"
    host := "app.test"
    urlHost := ""
    url := ⟨bytesOf "/a b(c)", [], bytesOf "x=1"⟩
    forceQuery := false
    tls := true
    header := ⟨[("Accept", ["text/html", "*/*"]), ("Connection", ["close"])], by decide⟩
    bodyless := false
    contentLength := 4 }

theorem request_head_preserved_submission : ∃ next decoded seen,
    HeaderCodec.step literalHpack (HeaderCodec.State.new () ())
        (.headers (openForward submission [] 1) []) = some next ∧
      next.received = [.ok decoded] ∧ serveStream decoded = some seen ∧
      SameRequest submission seen := by
  obtain ⟨next, crossed⟩ : ∃ next, HeaderCodec.step literalHpack (HeaderCodec.State.new () ())
      (.headers (openForward submission [] 1) []) = some next :=
    Option.isSome_iff_exists.mp (by decide +kernel)
  obtain ⟨decoded, seen, received, -, -, served, same⟩ :=
    request_head_preserved literalHpack _ literal_lossless () () trivial [] _ next rfl submission
      ⟨Or.inl rfl, Or.inl rfl⟩ (by decide +kernel) [] [] 1 crossed
  exact ⟨next, decoded, seen, crossed, received, served, same⟩

end ReverseHttp.RequestHead
