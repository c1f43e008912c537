import Mathlib.Data.List.Basic
import BenchCharts.Proofs.Yaml.Marks

/-!
Tokens of written values. The scanner is followed through a value to the line behind it, entry by
entry; blocks that the value leaves open are closed there, since that line starts to the left of
them.
-/
namespace BenchCharts.Yaml

open Format (Value)
open TokenScan

def nameStyle (name : String) : ScalarStyle := styleOf (isInlineName name) name

/-- A name up to its colon. -/
def nameText (indent : Nat) (name : String) : List Char :=
  if isInlineName name then writeText true (indent + 2) name
  else '?' :: ' ' :: endLine (writeText false (indent + 2) name) ++ pad indent

/-- Where the content of a name stands. -/
def namePlace (name : String) : Place := if isInlineName name then .name else .mark

mutual

/-- The tokens of a value. Lists behind a name are not indented and need no brackets. -/
def valueTokens (place : Place) : Value → List Token
  | .null => [.scalar .plain "null"]
  | .natural n => [.scalar .plain (String.ofList (Nat.toDigits 10 n))]
  | .real x => [.scalar .plain (numberForm.write x)]
  | .text s => [.scalar (styleOf false s) s]
  | .list items =>
      if items.isEmpty then [.flowSequenceStart, .flowSequenceEnd]
      else if place = .name then itemTokens items
      else .sequenceStart :: itemTokens items ++ [.blockEnd]
  | .record members =>
      if members.isEmpty then [.flowMappingStart, .flowMappingEnd]
      else .mappingStart :: memberTokens members ++ [.blockEnd]

def itemTokens : List Value → List Token
  | [] => []
  | item :: rest => .blockEntry :: valueTokens .mark item ++ itemTokens rest

def memberTokens : List (String × Value) → List Token
  | [] => []
  | (name, value) :: rest =>
      .key :: .scalar (nameStyle name) name :: .value ::
        valueTokens (namePlace name) value ++ memberTokens rest

end

theorem atWordEnd_writeAt (place : Place) (hplace : place ≠ .top) (indent : Nat) (v : Value)
    (rest : List Char) : atWordEnd (writeAt place indent v ++ rest) := by
  have hscalar (text : List Char) : atWordEnd (place.scalar text ++ rest) := by
    simp [Place.scalar, hplace, atWordEnd, isBlank]
  have hopening (inner : Nat) (text : List Char) :
      atWordEnd ((place.opening inner ++ text) ++ rest) := by
    cases place with
    | top => exact absurd rfl hplace
    | name => simp [Place.opening, atWordEnd, isBreak]
    | mark => simp [Place.opening, atWordEnd, isBlank]
  cases v with
  | null | natural | real | text =>
    rw [writeAt]
    exact hscalar _
  | list items | record members =>
    rw [writeAt]
    split
    · exact hscalar _
    · exact hopening _ _

theorem writeItems_of_ne_nil (indent : Nat) (items : List Value) (h : items ≠ []) :
    writeItems indent false items = pad indent ++ writeItems indent true items := by
  cases items with
  | nil => exact absurd rfl h
  | cons item rest => simp [writeItems]

theorem writeMembers_of_ne_nil (indent : Nat) (members : List (String × Value)) (h : members ≠ []) :
    writeMembers indent false members = pad indent ++ writeMembers indent true members := by
  cases members with
  | nil => exact absurd rfl h
  | cons member rest => simp [writeMembers]

theorem writeMembers_cons (indent : Nat) (name : String) (value : Value)
    (rest : List (String × Value)) :
    writeMembers indent true ((name, value) :: rest) =
      nameText indent name ++ ':' :: (writeAt (namePlace name) indent value ++
        writeMembers indent false rest) := by
  rw [writeMembers, nameText, namePlace]
  cases isInlineName name <;> simp

theorem namePlace_ne_top (name : String) : namePlace name ≠ .top := by
  unfold namePlace
  split <;> decide

theorem Fits.of_lt {column : Nat} {outer : List Int} {inner : Nat} (allowed : Bool)
    (h : inner < column) : Fits allowed ((inner : Int) :: outer) column where
  key _ := by
    rw [List.headD_cons]
    omega
  indent := by
    rw [List.headD_cons]
    omega

theorem startsToken_of_mark : ∀ c ∈ ['-', '?', ':'], StartsToken c := by
  intro c hc
  simp only [List.mem_cons, List.not_mem_nil, or_false] at hc
  rcases hc with rfl | rfl | rfl <;> exact ⟨by decide, by decide, by decide, by decide⟩

theorem starts_cons {c : Char} (rest : List Char) (h : StartsToken c) :
    ∀ d ∈ (c :: rest).head?, StartsToken d :=
  fun _ hd => (Option.mem_some.mp hd) ▸ h

section Scalar

variable (place : Place) (hplace : place ≠ .top) (column k index line reached : Nat)
  (outer : List Int) (allowed : Bool) (tokens : List Token) (body : List Char)
include hplace

/-- A scalar behind its name or mark. -/
theorem reachesTo_scalar {cs text : List Char} {style : ScalarStyle}
    (h : Written false (column + 2) cs style text) (hbody : Resumes column k body)
    (hk : k ≤ column) (hreached : column < reached) :
    ReachesTo (blockScan ⟨place.scalar text ++ (pad k ++ body), index, line, reached⟩ allowed none
      ((column : Int) :: outer) tokens) body k ((column : Int) :: outer)
      (tokens ++ [.scalar style (String.ofList cs)]) := by
  have hstart : ∀ c ∈ (endLine text ++ (pad k ++ body)).head?, StartsToken c := by
    rw [h.endLine_eq, List.append_assoc]
    exact h.head_starts _
  have hsettle := settle_pad allowed none ((column : Int) :: outer) tokens 1 index line reached
    (endLine text ++ (pad k ++ body)) hstart rfl
  rw [closeBlocks_of_le _ _ _ _ _ _ (by rw [List.headD_cons]; omega)] at hsettle
  have hleads := leads_written allowed ((column : Int) :: outer) tokens k (index + 1) line
    (reached + 1) body h hbody (by rw [List.headD_cons]; omega) (Fits.of_lt allowed (by omega))
  refine ⟨_, ?_, hleads⟩
  simpa [Place.scalar, hplace, pad] using hsettle

theorem reachesTo_brackets {opening closing : Char} {first last : Token}
    (hbrackets : Brackets opening closing first last) (hbody : Resumes column k body)
    (hreached : column < reached) :
    ReachesTo (blockScan ⟨place.scalar [opening, closing] ++ (pad k ++ body), index, line, reached⟩
      allowed none ((column : Int) :: outer) tokens) body k ((column : Int) :: outer)
      (tokens ++ [first, last]) := by
  have hopening : StartsToken opening := by
    cases hbrackets <;> exact ⟨by decide, by decide, by decide, by decide⟩
  have hends : endLine [opening, closing] = [opening, closing, '\n'] := by
    cases hbrackets <;> rfl
  have hsettle := settle_pad allowed none ((column : Int) :: outer) tokens 1 index line reached
    (opening :: closing :: '\n' :: (pad k ++ body))
    (starts_cons _ hopening) rfl
  rw [closeBlocks_of_le _ _ _ _ _ _ (by rw [List.headD_cons]; omega)] at hsettle
  have hleads := leads_brackets allowed ((column : Int) :: outer) tokens (index + 1) line
    (reached + 1) hbrackets k body hbody (Fits.of_lt allowed (by omega))
  refine ⟨_, ?_, hleads⟩
  simpa [Place.scalar, hplace, hends, pad] using hsettle

end Scalar

section Name

variable (name : String) (column index line : Nat) (indents : List Int) (tokens : List Token)
  (rest : List Char) (hindents : indents.headD (-1) ≤ column)
include hindents

/-- A name in its line, with its colon. -/
theorem leads_inlineName (hname : isInlineName name) (hrest : atWordEnd rest) :
    ∃ index' line' reached, column < reached ∧ ∀ {body : List Char} {k : Nat} {outer : List Int}
      {after : List Token},
      ReachesTo (blockScan ⟨rest, index', line', reached⟩ false none (openedAt indents column)
        (tokens ++ openingAt indents column .mappingStart ++
          [.key, .scalar (nameStyle name) name, .value])) body k outer after →
      LeadsTo (blockScan ⟨writeText true (column + 2) name ++ ':' :: rest, index, line, column⟩ true
        none indents tokens) body k outer after := by
  have hwritten := written_writeText true (column + 2) name
  generalize writeText true (column + 2) name = text at hwritten ⊢
  obtain ⟨htoken, hlength⟩ := token_name true indents tokens index line column rest hwritten
    (by omega) (by rwa [String.ofList_toList]) hrest
  rw [String.ofList_toList] at htoken
  obtain ⟨c, text', rfl, -⟩ := hwritten.exists_start
  have hunexpired (next : Cursor) := expireKey_savedKey true indents tokens
    ⟨c :: text' ++ ':' :: rest, index, line, column⟩ next
  have hkey := hunexpired ⟨':' :: rest, index + (c :: text').length, line,
    column + (c :: text').length⟩ rfl (by simpa using hlength)
  have hsettle := settle_start false _ indents (tokens ++ [.scalar (styleOf true name) name])
    (index + (c :: text').length) line (column + (c :: text').length) (':' :: rest)
    (starts_cons rest (startsToken_of_mark ':' (by simp))) hkey
  rw [closeBlocks_of_le _ _ _ _ _ _ (by omega)] at hsettle
  have hcolon := token_colon indents tokens (index + (c :: text').length) line
    (column + (c :: text').length) rest
      ⟨tokens.length, decide (indents.headD (-1) = (column : Int)),
      index, line, column⟩ (.scalar (styleOf true name) name) hrest rfl
  refine ⟨index + (c :: text').length + 1, line, column + (c :: text').length + 1, by omega,
    fun h => ?_⟩
  have hstyle : nameStyle name = styleOf true name := by rw [nameStyle, hname]
  rw [hstyle] at h
  have hshort : (':' :: rest).length < (c :: text' ++ ':' :: rest).length := by
    simp only [List.length_append, List.length_cons]
    omega
  refine leadsTo_of_token (by rw [htoken, Option.bind_some, expireKeys_blockScan, hkey]; rfl) rfl
    hshort ⟨_, hsettle, ?_⟩
  exact leadsTo_of_blockToken hcolon (by simp) h

/-- A name in lines of its own, with its marks. -/
theorem leads_lineName (hrest : atWordEnd rest) :
    ∃ index' line', ∀ {body : List Char} {k : Nat} {outer : List Int} {after : List Token},
      ReachesTo (blockScan ⟨rest, index', line', column + 1⟩ true none (openedAt indents column)
        (tokens ++ openingAt indents column .mappingStart ++
          [.key, .scalar (styleOf false name) name, .value])) body k outer after →
      LeadsTo (blockScan ⟨'?' :: ' ' :: endLine (writeText false (column + 2) name) ++
        (pad column ++ ':' :: rest), index, line, column⟩ true none indents tokens) body k outer
        after := by
  have hwritten := written_writeText false (column + 2) name
  generalize writeText false (column + 2) name = text at hwritten ⊢
  obtain ⟨inner, hopened⟩ := exists_openedAt indents column hindents
  have hcolon : Resumes (column : Int) column (':' :: rest) :=
    ⟨starts_cons rest (startsToken_of_mark ':' (by simp)), .inr (Int.le_refl _)⟩
  have hkey := token_keyMark indents tokens index line column
    (' ' :: endLine text ++ (pad column ++ ':' :: rest)) (by simp [atWordEnd, isBlank])
  have hname := reachesTo_scalar .mark (by decide) column column (index + 1) line (column + 1) inner
    true (tokens ++ openingAt indents column .mappingStart ++ [.key]) (':' :: rest) hwritten hcolon
    (Nat.le_refl _) (by omega)
  rw [String.ofList_toList] at hname
  obtain ⟨settled, hsettle, index', line', hleads⟩ := hname
  rw [closeBlocks_self] at hleads
  have hvalue := token_valueMark ((column : Int) :: inner) (tokens ++ openingAt indents column
    .mappingStart ++ [.key] ++ [.scalar (styleOf false name) name]) index' line' column rest hrest
  rw [openedAt_cons, openingAt_cons] at hvalue
  refine ⟨index' + 1, line', fun h => ?_⟩
  rw [hopened] at h hkey
  have hbehind := leadsTo_of_blockToken hvalue (by simp) (by simpa using h)
  exact leadsTo_of_blockToken hkey (by simp) ⟨settled, hsettle, hleads.leadsTo hbehind⟩

/-- What a name leads to is a scan behind its colon from which its content can be read. -/
theorem leads_name (hrest : atWordEnd rest) :
    ∃ index' line' reached allowed, column < reached ∧
      (namePlace name = .mark → allowed = true ∧ reached = column + 1) ∧
      ∀ {body : List Char} {k : Nat} {outer : List Int} {after : List Token},
        ReachesTo (blockScan ⟨rest, index', line', reached⟩ allowed none (openedAt indents column)
          (tokens ++ openingAt indents column .mappingStart ++
            [.key, .scalar (nameStyle name) name, .value])) body k outer after →
        LeadsTo (blockScan ⟨nameText column name ++ ':' :: rest, index, line, column⟩ true none
          indents tokens) body k outer after := by
  cases hname : isInlineName name with
  | true =>
    obtain ⟨index', line', reached, hreached, hleads⟩ := leads_inlineName name column index line
      indents tokens rest hindents hname hrest
    refine ⟨index', line', reached, false, hreached, by simp [namePlace, hname], fun h => ?_⟩
    rw [nameText, if_pos hname]
    exact hleads h
  | false =>
    obtain ⟨index', line', hleads⟩ := leads_lineName name column index line indents tokens rest
      hindents hrest
    refine ⟨index', line', column + 1, true, by omega, fun _ => ⟨rfl, rfl⟩, fun h => ?_⟩
    rw [nameStyle, hname] at h
    simpa [nameText, hname] using hleads h

omit hindents in
theorem head_nameText : ∀ c ∈ (nameText column name ++ rest).head?, StartsToken c := by
  unfold nameText
  split
  · exact (written_writeText true (column + 2) name).head_starts rest
  · exact starts_cons _ (startsToken_of_mark '?' (by simp))

end Name

/-- The first entry of a collection stands behind its mark or in a line of its own. -/
theorem settle_opening (place : Place) (hplace : place ≠ .top)
    (column inner index line reached : Nat)
    (outer : List Int) (allowed : Bool) (tokens : List Token) (text : List Char)
    (hinner : column ≤ inner)
    (hmark : place = .mark → allowed = true ∧ reached = column + 1 ∧ inner = column + 2)
    (hstart : ∀ c ∈ text.head?, StartsToken c) :
    ∃ index' line', (blockScan ⟨place.opening inner ++ text, index, line, reached⟩ allowed none
      ((column : Int) :: outer) tokens).settle =
        some
          (blockScan ⟨text, index', line', inner⟩ true none ((column : Int) :: outer) tokens) := by
  have hopen : ((column : Int) :: outer).headD (-1) ≤ inner := by
    rw [List.headD_cons]
    omega
  cases place with
  | top => exact absurd rfl hplace
  | name =>
    have hsettle :=
      settle_break allowed none ((column : Int) :: outer) tokens inner index line reached
      text hstart (by simp)
    rw [closeBlocks_of_le _ _ _ _ _ _ hopen] at hsettle
    exact ⟨_, _, hsettle⟩
  | mark =>
    obtain ⟨rfl, rfl, rfl⟩ := hmark rfl
    have hsettle := settle_pad true none ((column : Int) :: outer) tokens 1 index line (column + 1)
      text hstart rfl
    rw [closeBlocks_of_le _ _ _ _ _ _ hopen] at hsettle
    exact ⟨_, _, hsettle⟩

/-- A block that was opened for a collection ends with it. -/
theorem leadsTo_closed {s : TokenScan} {body : List Char} {column inner k : Nat} {outer : List Int}
    {tokens entries : List Token} {first : Token} (hinner : column < inner) (hk : k ≤ column)
    (h : LeadsTo s body k (openedAt ((column : Int) :: outer) inner)
      (tokens ++ openingAt ((column : Int) :: outer) inner first ++ entries)) :
    LeadsTo s body k ((column : Int) :: outer) (tokens ++ (first :: entries ++ [.blockEnd])) := by
  have hlt : ((column : Int) :: outer).headD (-1) < inner := by
    rw [List.headD_cons]
    omega
  rw [openedAt_of_lt _ _ hlt, openingAt_of_lt _ _ _ hlt] at h
  have hclosed := h.close (by omega)
  simpa using hclosed

mutual

theorem reachesTo_value (v : Value) (place : Place) (hplace : place ≠ .top)
    (column k index line reached : Nat) (outer : List Int) (allowed : Bool) (tokens : List Token)
    (body : List Char) (hbody : Resumes column k body) (hk : k ≤ column)
    (hreached : column < reached) (hmark : place = .mark → allowed ∧ reached = column + 1) :
    ReachesTo (blockScan ⟨writeAt place column v ++ (pad k ++ body), index, line, reached⟩ allowed
      none ((column : Int) :: outer) tokens) body k ((column : Int) :: outer)
      (tokens ++ valueTokens place v) := by
  match v with
  | .null =>
    have hnull : Written false (column + 2) "null".toList .plain "null".toList :=
      .plain (plainText_of_isPlain _ (by decide))
    simpa [writeAt, valueTokens] using
      reachesTo_scalar place hplace column k index line reached outer allowed tokens body
        hnull hbody
        hk hreached
  | .natural n =>
    simpa [writeAt, valueTokens] using
      reachesTo_scalar place hplace column k index line reached outer allowed tokens body
        (.plain (plainText_natural n)) hbody hk hreached
  | .real x =>
    simpa [writeAt, valueTokens] using
      reachesTo_scalar place hplace column k index line reached outer allowed tokens body
        (.plain (plainText_real x)) hbody hk hreached
  | .text s =>
    simpa [writeAt, valueTokens] using
      reachesTo_scalar place hplace column k index line reached outer allowed tokens body
        (written_writeText false (column + 2) s) hbody hk hreached
  | .list [] =>
    simpa [writeAt, valueTokens] using
      reachesTo_brackets place hplace column k index line reached outer allowed tokens body .list
        hbody hreached
  | .record [] =>
    simpa [writeAt, valueTokens] using
      reachesTo_brackets place hplace column k index line reached outer allowed tokens body .record
        hbody hreached
  | .list (item :: rest) =>
    have hstart (inner : Nat) : ∀ c ∈ (writeItems inner true (item :: rest) ++
        (pad k ++ body)).head?, StartsToken c := by
      simpa [writeItems] using startsToken_of_mark '-' (by simp)
    have hwritten : writeAt place column (.list (item :: rest)) ++ (pad k ++ body) =
        place.opening (place.listIndent column) ++
          (writeItems (place.listIndent column) true (item :: rest) ++ (pad k ++ body)) := by
      simp [writeAt]
    have hinner : column ≤ place.listIndent column := by
      unfold Place.listIndent
      split <;> omega
    obtain ⟨index', line', hsettle⟩ := settle_opening place hplace column (place.listIndent column)
      index line reached outer allowed tokens _ hinner
      (fun h => ⟨(hmark h).1, (hmark h).2, by simp [Place.listIndent, h]⟩) (hstart _)
    have hitems := leadsTo_items (item :: rest) (by simp) (place.listIndent column) k index' line'
      ((column : Int) :: outer) tokens body (by rw [List.headD_cons]; omega)
      (hbody.of_le (by omega)) (by omega)
    rw [hwritten]
    refine ⟨_, hsettle, ?_⟩
    cases place with
    | top => exact absurd rfl hplace
    | name =>
      have hindent : Place.listIndent .name column = column := rfl
      rw [hindent, openedAt_cons, openingAt_cons] at hitems
      simpa [valueTokens, hindent] using hitems
    | mark =>
      have hclosed := leadsTo_closed (Nat.lt_add_of_pos_right (by decide)) hk hitems
      simpa [valueTokens] using hclosed
  | .record (member :: rest) =>
    have hstart : ∀ c ∈ (writeMembers (column + 2) true (member :: rest) ++
        (pad k ++ body)).head?, StartsToken c := by
      rw [writeMembers_cons, List.append_assoc]
      exact head_nameText _ _ _
    have hindent : place.recordIndent column = column + 2 := if_neg hplace
    have hwritten : writeAt place column (.record (member :: rest)) ++ (pad k ++ body) =
        place.opening (column + 2) ++
          (writeMembers (column + 2) true (member :: rest) ++ (pad k ++ body)) := by
      simp [writeAt, hindent]
    obtain ⟨index', line', hsettle⟩ := settle_opening place hplace column (column + 2)
      index line reached outer allowed tokens _ (by omega)
      (fun h => ⟨(hmark h).1, (hmark h).2, rfl⟩) hstart
    have hmembers := leadsTo_members (member :: rest) (by simp) (column + 2) k index' line'
      ((column : Int) :: outer) tokens body (by rw [List.headD_cons]; omega)
      (hbody.of_le (by omega)) (by omega)
    rw [hwritten]
    refine ⟨_, hsettle, ?_⟩
    simpa [valueTokens] using leadsTo_closed (Nat.lt_add_of_pos_right (by decide)) hk hmembers

theorem leadsTo_items (items : List Value) (hne : items ≠ []) (column k index line : Nat)
    (indents : List Int) (tokens : List Token) (body : List Char)
    (hindents : indents.headD (-1) ≤ column) (hbody : Resumes column k body) (hk : k ≤ column) :
    LeadsTo (blockScan ⟨writeItems column true items ++ (pad k ++ body), index, line, column⟩ true
      none indents tokens) body k (openedAt indents column)
      (tokens ++ openingAt indents column .sequenceStart ++ itemTokens items) := by
  match items with
  | [] => exact absurd rfl hne
  | item :: rest =>
    obtain ⟨outer, hopened⟩ := exists_openedAt indents column hindents
    -- The item reaches the next one at the column of the list, or the line behind the list.
    have hentry (after : List Char) := token_entry indents tokens index line column
      (writeAt .mark column item ++ after) (atWordEnd_writeAt .mark (by decide) column item after)
    have hitem (k : Nat) (body : List Char) := reachesTo_value item .mark (by decide) column k
      (index + 1) line (column + 1) outer true (tokens ++ openingAt indents column .sequenceStart ++
        [.blockEntry]) body
    rw [hopened] at hentry ⊢
    by_cases hrest : rest = []
    · subst hrest
      have hreach := hitem k body hbody hk (by omega) fun _ => ⟨rfl, rfl⟩
      simpa [writeItems, itemTokens] using leadsTo_of_blockToken (hentry _) (by simp) hreach
    · have hnext : Resumes column column (writeItems column true rest ++ (pad k ++ body)) := by
        obtain ⟨next, rest, rfl⟩ := List.exists_cons_of_ne_nil hrest
        exact ⟨by simpa [writeItems] using startsToken_of_mark '-' (by simp), .inr (Int.le_refl _)⟩
      have hreach := hitem column _ hnext (Nat.le_refl _) (by omega) fun _ => ⟨rfl, rfl⟩
      have hleads := leadsTo_of_blockToken (hentry _) (by simp) (hreach.trans (Int.le_refl _)
        fun index line =>
          leadsTo_items rest hrest column k index line _ _ body (Int.le_refl _) hbody
          hk)
      simpa [writeItems, itemTokens, writeItems_of_ne_nil column rest hrest] using hleads

theorem leadsTo_members (members : List (String × Value)) (hne : members ≠ [])
    (column k index line : Nat) (indents : List Int) (tokens : List Token) (body : List Char)
    (hindents : indents.headD (-1) ≤ column) (hbody : Resumes column k body) (hk : k ≤ column) :
    LeadsTo (blockScan ⟨writeMembers column true members ++ (pad k ++ body), index, line, column⟩
      true none indents tokens) body k (openedAt indents column)
      (tokens ++ openingAt indents column .mappingStart ++ memberTokens members) := by
  match members with
  | [] => exact absurd rfl hne
  | (name, value) :: rest =>
    obtain ⟨outer, hopened⟩ := exists_openedAt indents column hindents
    rw [writeMembers_cons, List.append_assoc, List.cons_append, List.append_assoc]
    -- The content reaches the next name at the column of the record, or the line behind the record.
    have hplace := namePlace_ne_top name
    have hname (after : List Char) := leads_name name column index line indents tokens
      (writeAt (namePlace name) column value ++ after) hindents
      (atWordEnd_writeAt _ hplace column value after)
    rw [hopened] at hname ⊢
    by_cases hrest : rest = []
    · subst hrest
      obtain ⟨index', line', reached, allowed, hreached, hmark, hleads⟩ := hname (pad k ++ body)
      have hreach := reachesTo_value value _ hplace column k index' line' reached outer allowed
        (tokens ++ openingAt indents column .mappingStart ++
          [.key, .scalar (nameStyle name) name, .value]) body hbody hk hreached hmark
      simpa [writeMembers, memberTokens] using hleads hreach
    · have hnext : Resumes column column (writeMembers column true rest ++ (pad k ++ body)) := by
        obtain ⟨⟨next, content⟩, rest, rfl⟩ := List.exists_cons_of_ne_nil hrest
        refine ⟨?_, .inr (Int.le_refl _)⟩
        rw [writeMembers_cons, List.append_assoc]
        exact head_nameText next column _
      obtain ⟨index', line', reached, allowed, hreached, hmark, hleads⟩ := hname
        (pad column ++ (writeMembers column true rest ++ (pad k ++ body)))
      have hreach := reachesTo_value value _ hplace column column index' line' reached outer allowed
        (tokens ++ openingAt indents column .mappingStart ++
          [.key, .scalar (nameStyle name) name, .value]) _ hnext (Nat.le_refl _) hreached hmark
      have hall := hleads (hreach.trans (Int.le_refl _) fun index line =>
        leadsTo_members rest hrest column k index line _ _ body (Int.le_refl _) hbody hk)
      simpa [memberTokens, writeMembers_of_ne_nil column rest hrest] using hall

end

end BenchCharts.Yaml
