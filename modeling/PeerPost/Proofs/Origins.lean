import PeerPost.Config.Settings
import PeerPost.Http.Router
import PeerPost.Proofs.Commands

/-! # Which origins are admitted

No response but those of `dress` says which origins are admitted, so what a response says depends on the
setting and on the origin of the request alone: on neither the target nor the status. The origins that a list
admits are told by what stands between its commas, without a word on how the list is taken apart. -/

namespace PeerPost

/-! ### Parts of texts -/

namespace Text

/-- Whether a text has no white space at its two ends. -/
def Tight (text : List Char) : Prop :=
  (∀ c ∈ text.head?, isBlank c = false) ∧ ∀ c ∈ text.getLast?, isBlank c = false

def Blank (text : List Char) : Prop :=
  ∀ c ∈ text, isBlank c = true

theorem trimStart_eq_iff {text rest : List Char} : trimStart text = rest ↔
    (∀ c ∈ rest.head?, isBlank c = false) ∧ ∃ left, text = left ++ rest ∧ Blank left := by
  constructor
  · rintro rfl
    refine ⟨fun c hc => ?_, text.takeWhile isBlank, List.takeWhile_append_dropWhile.symm, ?_⟩
    · have first := List.head?_dropWhile_not isBlank text
      rw [trimStart] at hc
      rwa [Option.mem_def.mp hc] at first
    · exact fun c hc => List.all_eq_true.mp List.all_takeWhile c hc
  · rintro ⟨first, left, rfl, blank⟩
    rw [trimStart, List.dropWhile_append_of_pos blank]
    cases rest with
    | nil => rfl
    | cons c rest => exact List.dropWhile_cons_of_neg (by simp [first c rfl])

theorem trimEnd_eq_iff {text rest : List Char} : trimEnd text = rest ↔
    (∀ c ∈ rest.getLast?, isBlank c = false) ∧ ∃ right, text = rest ++ right ∧ Blank right := by
  have turned : trimEnd text = rest ↔ trimStart text.reverse = rest.reverse := List.reverse_eq_iff
  rw [turned, trimStart_eq_iff, List.head?_reverse]
  refine and_congr_right fun _ => ⟨?_, ?_⟩
  · rintro ⟨left, e, blank⟩
    refine ⟨left.reverse, ?_, fun c hc => blank c (List.mem_reverse.mp hc)⟩
    rw [← List.reverse_reverse text, e, List.reverse_append, List.reverse_reverse]
  · rintro ⟨right, rfl, blank⟩
    exact ⟨right.reverse, List.reverse_append, fun c hc => blank c (List.mem_reverse.mp hc)⟩

/-- What is left of a text without the white space at its two ends, unless nothing is left. -/
theorem trim_eq_iff {text part : List Char} (nonempty : part ≠ []) : trim text = part ↔
    Tight part ∧ ∃ left right, text = left ++ part ++ right ∧ Blank left ∧ Blank right := by
  have head (right : List Char) : (part ++ right).head? = part.head? := List.head?_append_of_ne_nil _ nonempty
  rw [trim, trimEnd_eq_iff]
  constructor
  · rintro ⟨last, right, e, hr⟩
    obtain ⟨first, left, e, hl⟩ := trimStart_eq_iff.mp e
    rw [head] at first
    exact ⟨⟨first, last⟩, left, right, by rw [e, List.append_assoc], hl, hr⟩
  · rintro ⟨⟨first, last⟩, left, right, e, hl, hr⟩
    refine ⟨last, right, trimStart_eq_iff.mpr ⟨?_, left, ?_, hl⟩, hr⟩
    · rwa [head]
    · rw [e, List.append_assoc]

theorem splitOn_eq (separator : Char) (text : List Char) : splitOn separator text = text.splitOn separator := by
  induction text with
  | nil => rfl
  | cons c rest ih =>
    rw [splitOn, ih, List.splitOn_cons_eq_if_modifyHead]
    by_cases h : c = separator
    · simp [h]
    · obtain ⟨part, parts, e⟩ := List.exists_cons_of_ne_nil (List.splitOn_ne_nil separator rest)
      simp [h, e]

theorem separator_not_mem {separator : Char} {text part : List Char} (h : part ∈ splitOn separator text) :
    separator ∉ part := by
  induction text generalizing part with
  | nil =>
    rw [List.mem_singleton.mp h]
    exact List.not_mem_nil
  | cons c rest ih =>
    rw [splitOn] at h
    split at h
    · rcases List.mem_cons.mp h with rfl | later
      · exact List.not_mem_nil
      · exact ih later
    · next other =>
      split at h
      · rw [List.mem_singleton.mp h, List.mem_singleton]
        exact Ne.symm other
      · next first parts e =>
        rw [e] at ih
        rcases List.mem_cons.mp h with rfl | later
        · rw [List.mem_cons, not_or]
          exact ⟨Ne.symm other, ih List.mem_cons_self⟩
        · exact ih (List.mem_cons_of_mem _ later)

end Text

namespace Http

/-! ### The parts of a list of origins -/

/-- Whether a list with commas has a part: what stands between two commas or ends of the list, without the
white space around it, unless nothing is left. -/
def HasPart (setting part : String) : Prop :=
  part ≠ "" ∧ Text.Tight part.toList ∧ ∃ pieces left right, [','].intercalate pieces = setting.toList ∧
    (∀ piece ∈ pieces, ',' ∉ piece) ∧ left ++ part.toList ++ right ∈ pieces ∧ Text.Blank left ∧ Text.Blank right

theorem mem_originParts {setting part : String} : part ∈ originParts setting ↔ HasPart setting part := by
  have trimmed : part ∈ originParts setting ↔
      part ≠ "" ∧ ∃ piece ∈ Text.splitOn ',' setting.toList, Text.trim piece = part.toList := by
    rw [originParts, List.mem_filterMap]
    constructor
    · rintro ⟨inner, hi, e⟩
      obtain ⟨piece, hp, rfl⟩ := List.mem_map.mp hi
      split at e
      · cases e
      · next nonempty =>
        cases e
        exact ⟨fun empty => nonempty (by simpa using empty), piece, hp, (String.toList_ofList).symm⟩
    · rintro ⟨nonempty, piece, hp, e⟩
      refine ⟨part.toList, List.mem_map.mpr ⟨piece, hp, e⟩, ?_⟩
      rw [if_neg (by simpa using nonempty), String.ofList_toList]
  rw [trimmed, HasPart]
  refine and_congr_right fun nonempty => ?_
  have nonempty : part.toList ≠ [] := by simpa using nonempty
  constructor
  · rintro ⟨piece, hp, e⟩
    obtain ⟨tight, left, right, rfl, hl, hr⟩ := (Text.trim_eq_iff nonempty).mp e
    refine ⟨tight, Text.splitOn ',' setting.toList, left, right, ?_, fun piece => Text.separator_not_mem, hp, hl, hr⟩
    rw [Text.splitOn_eq, List.intercalate_splitOn]
  · rintro ⟨tight, pieces, left, right, joined, plain, hp, hl, hr⟩
    refine ⟨left ++ part.toList ++ right, ?_, (Text.trim_eq_iff nonempty).mpr ⟨tight, left, right, rfl, hl, hr⟩⟩
    rwa [← joined, Text.splitOn_eq, List.splitOn_intercalate ',' plain (List.ne_nil_of_mem hp)]

end Http

/-- Whether the settings of a server list an origin. -/
def ServerSettings.Lists (server : ServerSettings) (origin : String) : Prop :=
  ∃ setting, server.corsOrigins? = some setting ∧ Http.HasPart setting origin

theorem ServerSettings.mem_originList {server : ServerSettings} {origin : String} :
    origin ∈ server.originList ↔ server.Lists origin := by
  rw [originList, Lists]
  cases server.corsOrigins? with
  | none => simp
  | some setting => simp [Http.mem_originParts]

namespace Http

/-- A list that is made only of white space and commas has no parts. -/
theorem HasPart.exists_mem {setting part : String} (h : HasPart setting part) :
    ∃ c ∈ setting.toList, Text.isBlank c = false ∧ c ≠ ',' := by
  obtain ⟨nonempty, tight, pieces, left, right, joined, plain, hp, -, -⟩ := h
  obtain ⟨c, rest, e⟩ := List.exists_cons_of_ne_nil (show part.toList ≠ [] by simpa using nonempty)
  have inPiece : c ∈ left ++ part.toList ++ right := by simp [e]
  refine ⟨c, ?_, tight.1 c (by rw [e]; rfl), fun comma => plain _ hp (comma ▸ inPiece)⟩
  obtain ⟨i, hi⟩ := List.mem_iff_getElem?.mp hp
  have kept : (pieces.intersperse [','])[2 * i]? = some (left ++ part.toList ++ right) :=
    List.getElem?_intersperse_two_mul.trans hi
  rw [← joined, List.intercalate]
  exact List.mem_flatten.mpr ⟨_, List.mem_of_getElem? kept, inPiece⟩

/-! ### The origins that a setting admits -/

namespace Origins

variable {parts : List String} {request : Request} {origin : String}

theorem admit?_of_any (any : "*" ∈ parts) (request : Request) : (ofList parts).admit? request = some "*" := by
  rw [ofList, if_pos (by simpa using any)]
  rfl

/-- The list that a router is given never has the wildcard. -/
theorem wildcard_not_mem {known : List String} (h : ofList parts = .listed known) : "*" ∉ known := by
  unfold ofList at h
  split at h
  · cases h
  · next other =>
    cases h
    exact fun any => other (by simpa using List.mem_of_mem_filter any)

theorem find?_utf8_eq_some_iff {known : List String} {bytes : Bytes} :
    (known.find? fun o => Text.utf8 o = bytes) = some origin ↔ origin ∈ known ∧ Text.utf8 origin = bytes := by
  constructor
  · intro found
    exact ⟨List.mem_of_find?_eq_some found, by simpa using List.find?_some found⟩
  · rintro ⟨mem, rfl⟩
    cases hf : known.find? fun o => Text.utf8 o = Text.utf8 origin with
    | none =>
      have refused := List.find?_eq_none.mp hf origin mem
      simp at refused
    | some found =>
      have same : Text.utf8 found = Text.utf8 origin := by simpa using List.find?_some hf
      rw [Text.utf8_injective same]

theorem admit?_eq_some_iff (other : "*" ∉ parts) : (ofList parts).admit? request = some origin ↔
    origin ∈ parts ∧ (∀ c ∈ origin.toList, isHeaderChar c = true) ∧
      request.header? "origin" = some (Text.utf8 origin) := by
  rw [ofList, if_neg (by simpa using other), admit?]
  cases request.header? "origin" with
  | none => simp
  | some bytes =>
    rw [find?_utf8_eq_some_iff, List.mem_filter, List.all_eq_true, and_assoc, Option.some_inj, eq_comm (a := bytes)]

end Origins

/-! ### What responses say -/

/-- The origins that a response says are admitted. -/
def Response.admitted (response : Response) : List String :=
  (response.headers.filter fun h => h.1 = "access-control-allow-origin").map Prod.snd

theorem Response.admitted_withHeader (response : Response) (name value : String) :
    (response.withHeader name value).admitted =
      response.admitted ++ if name = "access-control-allow-origin" then [value] else [] := by
  simp only [admitted, withHeader, List.filter_append, List.map_append]
  by_cases h : name = "access-control-allow-origin" <;> simp [h]

theorem Context.admitted_toResponse (ctx : Context) : ctx.toResponse.admitted = [] := by
  unfold toResponse
  split <;> rfl

/-- Whether what a plan responds with says nothing about origins. -/
def Plan.Silent : Plan → Prop
  | .respond response => response.admitted = []
  | .hold _ => True

theorem silent_planRoute (request : Request) (route : Route) : (planRoute request route).Silent := by
  cases route with
  | contacts =>
    simp only [planRoute]
    split
    · trivial
    · rfl
  | events =>
    simp only [planRoute]
    split
    · rw [Plan.Silent, eventsResponse]
      cases handshakeFault? request with
      | none => rfl
      | some fault => cases fault <;> rfl
    · rfl
  | conversation segment =>
    simp only [planRoute]
    split
    · split <;> trivial
    · split
      · split
        · rfl
        · split <;> trivial
      · rfl

theorem silent_plan (request : Request) : (plan request).Silent := by
  unfold plan
  split
  · cases request.route? with
    | none => rfl
    | some route => cases route <;> rfl
  · split
    · exact silent_planRoute request _
    · rfl

theorem admitted_carryOut {p : Plan} (silent : p.Silent) (node : Node) (now : Timestamp) :
    (p.carryOut node now).1.admitted = [] := by
  cases p with
  | respond response => exact silent
  | hold dialogue => exact Context.admitted_toResponse _

/-- Whatever a request is answered with, what the response says of origins is decided by the setting and the
origin of the request. -/
theorem admitted_serve (origins : Origins) (node : Node) (now : Timestamp) (request : Request) :
    (serve origins node now request).1.admitted = (origins.admit? request).toList := by
  have dressed : (origins.dress request ((plan request).carryOut node now).1.withSize).admitted =
      (origins.admit? request).toList := by
    have silent := admitted_carryOut (silent_plan request) node now
    unfold Origins.dress
    cases origins.admit? request <;>
      simp [Response.withSize, Response.admitted_withHeader, silent]
  by_cases head : request.method = "HEAD"
  · simp only [serve, head, if_true]
    exact dressed
  · simp only [serve, head, if_false]
    exact dressed

/-- No origin is admitted that is not listed. A router is never given the wildcard as one of several origins.
Where the wildcard is listed, every response admits all origins. Otherwise a response to whatever request
admits an origin exactly if it is listed, has no control character of ASCII but tabs, and is the first origin
that the request names, byte for byte; and it admits no other. So nothing is admitted where the setting is
absent or made of white space and commas. -/
theorem only_listed_origins_admitted (server : ServerSettings) (node : Node) (now : Timestamp) (request : Request) :
    let admitted := (serve server.origins node now request).1.admitted
    (∀ known, server.origins = .listed known → "*" ∉ known) ∧
      (server.Lists "*" → admitted = ["*"]) ∧
      (¬server.Lists "*" →
        (∀ origin, admitted = [origin] ↔ server.Lists origin ∧
          (∀ c ∈ origin.toList, c = '\t' ∨ 0x20 ≤ c.toNat ∧ c.toNat ≠ 0x7F) ∧
          request.header? "origin" = some (Text.utf8 origin)) ∧
        (admitted = [] ∨ ∃ origin, admitted = [origin])) ∧
      ((∀ setting, server.corsOrigins? = some setting → ∀ c ∈ setting.toList, Text.isBlank c = true ∨ c = ',') →
        admitted = []) := by
  intro admitted
  have decided : admitted = (server.origins.admit? request).toList := admitted_serve _ _ _ _
  have listed (origin : String) (other : ¬server.Lists "*") : server.origins.admit? request = some origin ↔
      server.Lists origin ∧ (∀ c ∈ origin.toList, isHeaderChar c = true) ∧
        request.header? "origin" = some (Text.utf8 origin) := by
    rw [← ServerSettings.mem_originList] at other ⊢
    exact Origins.admit?_eq_some_iff other
  have fit (c : Char) : isHeaderChar c = true ↔ c = '\t' ∨ 0x20 ≤ c.toNat ∧ c.toNat ≠ 0x7F := by
    simp [isHeaderChar]
  refine ⟨fun known => Origins.wildcard_not_mem, fun any => ?_, fun other => ⟨fun origin => ?_, ?_⟩, fun bare => ?_⟩
  · rw [decided, ServerSettings.origins, Origins.admit?_of_any (ServerSettings.mem_originList.mpr any)]
    rfl
  · simp only [← fit, ← listed origin other, decided]
    cases server.origins.admit? request <;> simp
  · rw [decided]
    cases server.origins.admit? request with
    | none => exact Or.inl rfl
    | some origin => exact Or.inr ⟨origin, rfl⟩
  · have unlisted (origin : String) : ¬server.Lists origin := by
      rintro ⟨setting, hs, h⟩
      obtain ⟨c, hc, blank, comma⟩ := h.exists_mem
      rcases bare setting hs c hc with isBlank | isComma
      · exact absurd isBlank (by simp [blank])
      · exact comma isComma
    rw [decided]
    cases ha : server.origins.admit? request with
    | none => rfl
    | some origin => exact absurd ((listed origin (unlisted "*")).mp ha).1 (unlisted origin)

/-- An origin that is admitted need not be visible ASCII. -/
theorem origin_beyond_ascii_admitted :
    let server := { ServerSettings.default with corsOrigins? := some "http://é" }
    let request : Request := ⟨"GET", "/v1/contacts", [("origin", Text.utf8 "http://é")], []⟩
    (serve server.origins Node.plainNode ⟨0⟩ request).1.admitted = ["http://é"] ∧
      ¬∃ part, server.Lists part ∧ (∀ c ∈ part.toList, c = '\t' ∨ 0x20 ≤ c.toNat ∧ c.toNat < 0x7F) ∧
        request.header? "origin" = some (Text.utf8 part) := by
  refine ⟨?_, ?_⟩
  · rw [admitted_serve]
    decide +kernel
  · rintro ⟨part, -, ascii, same⟩
    obtain rfl : "http://é" = part := Text.utf8_injective (Option.some.inj same)
    exact absurd (ascii 'é' (by decide)) (by decide)

end Http

end PeerPost
