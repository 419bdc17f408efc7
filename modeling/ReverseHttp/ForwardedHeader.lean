import ReverseHttp.HeaderCodec

/-!
The request header a forward hands to the tunnel's encoder. `Nominated` is the rule of
RFC 7230 §6.1 that the comment of `buildForwardedHeader` refers to: a name listed in a
Connection header is hop-by-hop too. The code looks at its fixed list only.
-/

namespace ReverseHttp.ForwardedHeader

open NetHttp HeaderCodec
open HeaderBlocks (Field)

def hopByHopNames : List String :=
  ["Connection", "Keep-Alive", "Proxy-Authenticate", "Proxy-Authorization", "Te", "Trailer",
    "Transfer-Encoding", "Upgrade", "Proxy-Connection"]

def isHopByHop (name : String) : Bool := hopByHopNames.contains name

/-- One round of the outer loop; `Add` puts the key into canonical form. -/
def addEntry (h : Header) (entry : String × List String) : Header :=
  if isHopByHop entry.1 then h
  else entry.2.foldl (fun h v => h.add (canonicalMIMEHeaderKey entry.1) v) h

/-- `pooled` is the map that `HeaderPool` hands out. -/
def buildForwardedHeader (pooled header : Header) : Header := header.foldl addEntry pooled.clear

/-! The specification. -/

def optionalSpace (c : Char) : Bool := c == ' ' || c == '\t'

def trim (chars : List Char) : List Char :=
  ((chars.dropWhile optionalSpace).reverse.dropWhile optionalSpace).reverse

/-- The elements of a comma-separated list. -/
def listTokens (value : String) : List (List Char) := (value.toList.splitOn ',').map trim

/-- Some value of the Connection header lists `name`, in any case. -/
def Nominated (header : Header) (name : String) : Prop :=
  ∃ value ∈ header.values "Connection", ∃ token ∈ listTokens value,
    token.map Char.toLower = name.toList.map Char.toLower

instance decidableNominated (header : Header) (name : String) :
    Decidable (Nominated header name) :=
  inferInstanceAs (Decidable (∃ value ∈ header.values "Connection", ∃ token ∈ listTokens value,
    token.map Char.toLower = name.toList.map Char.toLower))

/-- The values a name has to keep. -/
def endToEnd (header : Header) (name : String) : List String :=
  if isHopByHop name ∨ Nominated header name then [] else header.values name

def CanonicalKeys (header : Header) : Prop :=
  ∀ key ∈ header.map Prod.fst, canonicalMIMEHeaderKey key = key

/-- A header of the map that the Connection header lists is on the fixed list, or has no
values. -/
def NominatesFixedOnly (header : Header) : Prop :=
  ∀ key ∈ header.map Prod.fst, Nominated header key →
    isHopByHop key = true ∨ header.values key = []

instance decidableCanonicalKeys (header : Header) : Decidable (CanonicalKeys header) :=
  inferInstanceAs (Decidable (∀ key ∈ header.map Prod.fst, canonicalMIMEHeaderKey key = key))

instance decidableNominatesFixedOnly (header : Header) : Decidable (NominatesFixedOnly header) :=
  inferInstanceAs (Decidable (∀ key ∈ header.map Prod.fst, Nominated header key →
    isHopByHop key = true ∨ header.values key = []))

/-! The loop is a copy of the entries that are not on the list. -/

def keptEntries (header : Header) : Header := header.filter fun entry => !isHopByHop entry.1

theorem foldl_addEntry (header h : Header) (canonical : CanonicalKeys header) :
    header.foldl addEntry h = h.copy (keptEntries header) := by
  induction header generalizing h with
  | nil => rfl
  | cons entry rest ih =>
      have later : CanonicalKeys rest :=
        fun key member => canonical key (List.mem_cons_of_mem _ member)
      have key : canonicalMIMEHeaderKey entry.1 = entry.1 := canonical entry.1 (by simp)
      rw [List.foldl_cons, ih _ later]
      by_cases hop : isHopByHop entry.1 = true
      · simp [addEntry, keptEntries, hop]
      · simp [addEntry, keptEntries, hop, key, Header.copy]

theorem values_filter (header : Header) (keep : String → Bool) (name : String) :
    Header.values (header.filter fun entry => keep entry.1) name =
      if keep name then header.values name else [] := by
  induction header with
  | nil => simp
  | cons entry rest ih =>
      obtain ⟨key, values⟩ := entry
      by_cases same : name = key
      · subst same
        cases kept : keep name with
        | true => simp [kept, Header.values_cons]
        | false => simpa [kept] using ih
      · cases kept : keep key with
        | true => simp [kept, Header.values_cons, same, ih]
        | false => simp [kept, Header.values_cons, same, ih]

theorem values_built (pooled : Header) {header : Header}
    (distinct : (header.map Prod.fst).Nodup) (canonical : CanonicalKeys header) (name : String) :
    (buildForwardedHeader pooled header).values name =
      if isHopByHop name then [] else header.values name := by
  have distinctKept : ((keptEntries header).map Prod.fst).Nodup :=
    (List.filter_sublist.map Prod.fst).nodup distinct
  rw [buildForwardedHeader, foldl_addEntry header _ canonical, Header.values_copy _ _ _ distinctKept,
    keptEntries, values_filter header (fun key => !isHopByHop key)]
  cases isHopByHop name <;> simp [Header.clear]

/-! The encoder's own filter finds nothing left to drop. -/

theorem mem_keys_addAll {values : List String} {h : Header} {name key : String}
    (member : key ∈ (values.foldl (fun h value => h.add name value) h).map Prod.fst) :
    key ∈ h.map Prod.fst ∨ key = name := by
  induction values generalizing h with
  | nil => exact .inl member
  | cons value rest ih =>
      rcases ih member with old | new
      · rw [Header.keys_add] at old
        split at old
        · exact .inl old
        · simpa using old
      · exact .inr new

theorem mem_keys_copy {src dst : Header} {key : String}
    (member : key ∈ (dst.copy src).map Prod.fst) :
    key ∈ dst.map Prod.fst ∨ key ∈ src.map Prod.fst := by
  induction src generalizing dst with
  | nil => exact .inl member
  | cons entry rest ih =>
      rcases ih member with old | later
      · rcases mem_keys_addAll old with before | rfl
        · exact .inl before
        · exact .inr (by simp)
      · exact .inr (List.mem_cons_of_mem _ later)

/-- Every name the encoder refuses is on the proxy's list, in canonical form. -/
theorem not_forbidden {key : String} (canonical : canonicalMIMEHeaderKey key = key)
    (kept : isHopByHop key = false) : forbiddenForwardHeader (toLower key) = false := by
  -- a key that lower-cases to a token is one, and is then the canonical form of it
  have named : ∀ lower : String, lower.toList.all isToken = true → toLower key = lower →
      canonicalMIMEHeaderKey lower = key := by
    rintro lower token rfl
    rw [toList_toLower] at token
    have same : key.toList.all isToken = true := by simpa [isToken_toLower] using token
    rw [canonical_toLower same, canonical]
  by_contra forbidden
  rw [Bool.not_eq_false] at forbidden
  have listed : toLower key ∈
      ["connection", "proxy-connection", "keep-alive", "upgrade", "transfer-encoding"] := by
    simpa only [forbiddenForwardHeader, Bool.or_eq_true, beq_iff_eq, or_assoc, List.mem_cons,
      List.not_mem_nil, or_false] using forbidden
  have known : ∀ lower ∈
      ["connection", "proxy-connection", "keep-alive", "upgrade", "transfer-encoding"],
      lower.toList.all isToken = true ∧ isHopByHop (canonicalMIMEHeaderKey lower) = true := by
    decide +kernel
  obtain ⟨token, hop⟩ := known _ listed
  rw [named _ token rfl, kept] at hop
  cases hop

theorem regularFields_built (pooled : Header) {header sent : Header}
    (canonical : CanonicalKeys header) (order : sent.Perm (buildForwardedHeader pooled header)) :
    regularFields sent =
      sent.flatMap fun entry => entry.2.map fun v => (⟨toLower entry.1, v⟩ : Field) := by
  unfold regularFields
  apply List.flatMap_congr
  intro entry member
  have built : entry.1 ∈ (buildForwardedHeader pooled header).map Prod.fst :=
    List.mem_map_of_mem (order.mem_iff.mp member)
  rw [buildForwardedHeader, foldl_addEntry header _ canonical] at built
  rcases mem_keys_copy built with stale | kept
  · cases stale
  · obtain ⟨source, present, same⟩ := List.mem_map.mp kept
    obtain ⟨inside, plain⟩ := List.mem_filter.mp present
    have key := canonical source.1 (List.mem_map_of_mem inside)
    rw [← same, not_forbidden key (by simpa using plain)]
    rfl

theorem built_endToEnd (pooled : Header) {header : Header}
    (distinct : (header.map Prod.fst).Nodup) (canonical : CanonicalKeys header)
    (fixed : NominatesFixedOnly header) (name : String) :
    (buildForwardedHeader pooled header).values name = endToEnd header name := by
  rw [values_built pooled distinct canonical, endToEnd]
  by_cases hop : isHopByHop name = true
  · rw [if_pos hop, if_pos (.inl hop)]
  · rw [if_neg hop]
    by_cases nominated : Nominated header name
    · rw [if_pos (.inr nominated)]
      -- a nominated name off the list has no values, in the map or not
      by_cases present : name ∈ header.map Prod.fst
      · exact (fixed name present nominated).resolve_left hop
      · exact Header.values_absent header name present
    · rw [if_neg (not_or.mpr ⟨hop, nominated⟩)]

/-- A nominated header with values, off the list, is kept against the rule. -/
theorem fixed_of_endToEnd (pooled : Header) {header : Header}
    (distinct : (header.map Prod.fst).Nodup) (canonical : CanonicalKeys header)
    (follows : ∀ name, (buildForwardedHeader pooled header).values name = endToEnd header name) :
    NominatesFixedOnly header := by
  intro key _ nominated
  by_cases hop : isHopByHop key = true
  · exact .inl hop
  · have kept := follows key
    rw [values_built pooled distinct canonical, if_neg hop, endToEnd, if_pos (.inr nominated)]
      at kept
    exact .inr kept

/-- The header handed to the encoder follows the rule exactly for the requests whose
Connection header lists no header with values beyond the fixed names, and the encoder,
whatever order it takes the names in, writes all of it. -/
theorem forwarded_end_to_end (pooled : Header) (header : HeaderMap)
    (canonical : CanonicalKeys header.1) :
    ((∀ name, (buildForwardedHeader pooled header.1).values name = endToEnd header.1 name) ↔
      NominatesFixedOnly header.1) ∧
    ∀ sent, sent.Perm (buildForwardedHeader pooled header.1) →
      regularFields sent =
        sent.flatMap fun entry => entry.2.map fun v => (⟨toLower entry.1, v⟩ : Field) :=
  ⟨⟨fixed_of_endToEnd pooled header.2 canonical, built_endToEnd pooled header.2 canonical⟩,
    fun _ order => regularFields_built pooled canonical order⟩

/-- A client that names one of its own headers in Connection. -/
def nominating : HeaderMap :=
  ⟨[("Accept", ["*/*"]), ("Connection", ["close, x-foo"]), ("X-Foo", ["bar"])], by decide⟩

theorem nominated_header_forwarded :
    ¬ ∀ (pooled : Header) (header : HeaderMap), CanonicalKeys header.1 →
      ∀ name, (buildForwardedHeader pooled header.1).values name = endToEnd header.1 name := by
  intro follows
  have dropped := follows [] nominating (by decide +kernel) "X-Foo"
  have leaked : (buildForwardedHeader [] nominating.1).values "X-Foo" = ["bar"] := by
    decide +kernel
  have expected : endToEnd nominating.1 "X-Foo" = [] := by decide +kernel
  rw [leaked, expected] at dropped
  cases dropped

/-- The usual nominations: names that are on the list anyway. -/
def upgrading : HeaderMap :=
  ⟨[("Accept", ["text/html", "*/*"]), ("Connection", ["keep-alive, Upgrade"]),
    ("Keep-Alive", ["timeout=5"]), ("Upgrade", ["websocket"])], by decide⟩

theorem forwarded_end_to_end_upgrading :
    (buildForwardedHeader [] upgrading.1).values "Accept" = endToEnd upgrading.1 "Accept" ∧
      regularFields (buildForwardedHeader [] upgrading.1) =
        (buildForwardedHeader [] upgrading.1).flatMap fun entry =>
          entry.2.map fun v => (⟨toLower entry.1, v⟩ : Field) := by
  obtain ⟨follows, fields⟩ := forwarded_end_to_end [] upgrading (by decide +kernel)
  exact ⟨follows.mpr (by decide +kernel) "Accept", fields _ (List.Perm.refl _)⟩

end ReverseHttp.ForwardedHeader
