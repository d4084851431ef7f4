import Router1.Keenetic.Config

/-!
# The sections of a tunnel config

`_parseConfig` keeps one map for all sections of a name. Here a config is the list of its sections as they
stand in the text, and what the parser reads under a name is compared with them: of each key it has the value
of the last section of that name which sets the key. The fields of a config with several peers are therefore
taken from several of them, as soon as a later peer leaves a key out that an earlier one sets.
-/

namespace Keenetic

open Dart Api
open Remote (ok_of_toOption exists_ok)

variable {lower : String → String}

/-! ### What a line says -/

inductive ConfigLine where
  | nothing
  | header (name : String)
  | field (key value : String)
  deriving DecidableEq, Repr

def readLine (lower : String → String) (rawLine : String) : ConfigLine :=
  let line := trim rawLine
  if line.isEmpty || startsWith line "#" || startsWith line ";" then .nothing
  else if startsWith line "[" && endsWith line "]" then
    .header (lower (String.ofList (line.toList.drop 1).dropLast))
  else
    let before := line.toList.takeWhile (· != '=')
    if before.length = line.toList.length || before.isEmpty then .nothing
    else
      .field (lower (trim (String.ofList before)))
        (trim (String.ofList (line.toList.drop (before.length + 1))))

/-- What the parser does with a line. -/
def ParseState.take (state : ParseState) : ConfigLine → ParseState
  | .nothing => state
  | .header name => { sections := openSection name state.sections, current := name }
  | .field key value =>
      if state.current.isEmpty then state
      else
        let sections := openSection state.current state.sections
        let fields := (sections.lookup state.current).getD []
        { state with sections := put state.current (put key value fields) sections }

theorem parseLine_eq (lower : String → String) (state : ParseState) (rawLine : String) :
    parseLine lower state rawLine = state.take (readLine lower rawLine) := by
  unfold parseLine readLine
  dsimp only
  split
  · rfl
  · split
    · rfl
    · split
      · next hskip =>
          rw [Bool.or_eq_true] at hskip
          obtain hskip | hcurrent := hskip
          · rw [if_pos hskip]
            rfl
          · split
            · rfl
            · rw [ParseState.take, if_pos hcurrent]
      · next hfield =>
          rw [Bool.or_eq_true, not_or] at hfield
          rw [if_neg hfield.1, ParseState.take, if_neg hfield.2]

/-! ### The sections in the order of the text -/

/-- The sections up to a line, the latest first. Every header opens a section of its own. -/
def addLine (blocks : List (String × Section)) : ConfigLine → List (String × Section)
  | .nothing => blocks
  | .header name => (name, []) :: blocks
  | .field key value =>
      match blocks with
      | [] => []
      | (name, fields) :: rest =>
          if name.isEmpty then (name, fields) :: rest else (name, put key value fields) :: rest

def blocksOf (lines : List ConfigLine) : List (String × Section) := lines.foldl addLine []

/-- The sections of one name, in the order of the text. -/
def sectionsNamed (name : String) (lower : String → String) (text : String) : List Section :=
  (blocksOf ((lineSplitter text).map (readLine lower))).reverse.filterMap fun block =>
    if block.1 = name then some block.2 else none

/-- What the latest section of a name that sets the key says of it. -/
def lastValue (blocks : List (String × Section)) (name key : String) : Option String :=
  blocks.findSome? fun block => if block.1 = name then block.2.lookup key else none

theorem lookup_cons_eq {α : Type} (key other : String) (value : α) (entries : List (String × α)) :
    ((key, value) :: entries).lookup other = if other = key then some value else entries.lookup other := by
  rw [List.lookup_cons]
  by_cases h : other = key
  · rw [if_pos h, h, beq_self_eq_true]
  · rw [if_neg h, beq_eq_false_iff_ne.mpr h]

theorem lookup_put {α : Type} (key other : String) (value : α) (entries : List (String × α)) :
    (put key value entries).lookup other =
      if other = key then some value else entries.lookup other := by
  induction entries with
  | nil =>
      exact lookup_cons_eq key other value []
  | cons entry entries ih =>
      obtain ⟨first, old⟩ := entry
      rw [put]
      by_cases hfirst : first = key
      · rw [if_pos hfirst, lookup_cons_eq, lookup_cons_eq, hfirst]
        by_cases h : other = key <;> simp only [h, if_true, if_false]
      · rw [if_neg hfirst, lookup_cons_eq, ih, lookup_cons_eq]
        by_cases h : other = first
        · rw [if_pos h, if_pos h, if_neg (by rwa [h])]
        · rw [if_neg h, if_neg h]

theorem lookup_openSection (name other : String) (sections : List (String × Section)) :
    (openSection name sections).lookup other =
      if other = name then some ((sections.lookup name).getD []) else sections.lookup other := by
  rw [openSection]
  split
  · next hopen =>
      obtain ⟨fields, hfields⟩ := Option.isSome_iff_exists.mp hopen
      by_cases h : other = name <;> simp [h, hfields]
  · next hnew =>
      rw [Bool.not_eq_true, Option.isSome_eq_false_iff, Option.isNone_iff_eq_none] at hnew
      rw [List.lookup_append, hnew]
      by_cases h : other = name
      · rw [if_pos h, h, hnew, lookup_cons_eq, if_pos rfl]
        rfl
      · rw [if_neg h, lookup_cons_eq, if_neg h, List.lookup_nil, Option.or_none]

/-- The maps of the parser and the sections of the text agree: the parser is in the latest section, it has a
map for every name of a section, and in it the latest value of every key. -/
structure Mirrors (state : ParseState) (blocks : List (String × Section)) : Prop where
  current : state.current = (blocks.head?.map Prod.fst).getD ""
  opened : ∀ name, (state.sections.lookup name).isSome = true ↔ ∃ block ∈ blocks, block.1 = name
  values : ∀ name key, (state.sections.lookup name).bind (·.lookup key) = lastValue blocks name key

theorem mirrors_start : Mirrors ⟨[], ""⟩ [] where
  current := rfl
  opened name := by simp
  values name key := rfl

theorem Mirrors.take {state : ParseState} {blocks : List (String × Section)} (h : Mirrors state blocks)
    (line : ConfigLine) : Mirrors (state.take line) (addLine blocks line) := by
  cases line with
  | nothing => exact h
  | header name =>
      refine ⟨rfl, fun other => ?_, fun other key => ?_⟩
      · show ((openSection name state.sections).lookup other).isSome = true ↔
          ∃ block ∈ (name, []) :: blocks, block.1 = other
        rw [lookup_openSection]
        by_cases hname : other = name
        · simp [hname]
        · rw [if_neg hname, h.opened]
          simp [Ne.symm hname]
      · show ((openSection name state.sections).lookup other).bind (·.lookup key) =
          lastValue ((name, []) :: blocks) other key
        have hvalue := h.values other key
        rw [lookup_openSection, lastValue, List.findSome?_cons]
        by_cases hname : other = name
        · subst hname
          rw [if_pos rfl, if_pos rfl, List.lookup_nil]
          rw [lastValue] at hvalue
          rw [← hvalue]
          cases state.sections.lookup other <;> rfl
        · rw [if_neg hname, if_neg (Ne.symm hname)]
          exact hvalue
  | field key value =>
      cases blocks with
      | nil =>
          have hcurrent : state.current = "" := h.current
          rw [ParseState.take, if_pos (by rw [hcurrent]; rfl)]
          exact h
      | cons block blocks =>
          obtain ⟨name, fields⟩ := block
          have hcurrent : state.current = name := h.current
          rw [ParseState.take, addLine, hcurrent]
          by_cases hempty : name.isEmpty = true
          · rw [if_pos hempty, if_pos hempty]
            exact h
          · rw [if_neg hempty, if_neg hempty]
            refine ⟨rfl, fun other => ?_, fun other otherKey => ?_⟩
            · rw [lookup_put]
              by_cases hname : other = name
              · simp [hname]
              · rw [if_neg hname, lookup_openSection, if_neg hname, h.opened]
                simp
            · have hvalue := h.values other otherKey
              rw [lookup_put, lookup_openSection, lookup_openSection, if_pos rfl, lastValue,
                List.findSome?_cons]
              rw [lastValue, List.findSome?_cons] at hvalue
              by_cases hname : other = name
              · subst hname
                rw [if_pos rfl] at hvalue ⊢
                rw [if_pos rfl, Option.bind_some, Option.getD_some, lookup_put, lookup_put]
                by_cases hkey : otherKey = key
                · rw [if_pos hkey, if_pos hkey]
                · rw [if_neg hkey, if_neg hkey, ← hvalue]
                  cases state.sections.lookup other <;> rfl
              · rw [if_neg (Ne.symm hname)] at hvalue ⊢
                rw [if_neg hname, if_neg hname]
                exact hvalue

theorem Mirrors.run {state : ParseState} {blocks : List (String × Section)} (h : Mirrors state blocks)
    (lines : List String) :
    Mirrors (lines.foldl (parseLine lower) state) ((lines.map (readLine lower)).foldl addLine blocks) := by
  induction lines generalizing state blocks with
  | nil => exact h
  | cons line lines ih =>
      rw [List.foldl_cons, List.map_cons, List.foldl_cons, parseLine_eq]
      exact ih (h.take _)

/-! ### What is read of a config -/

/-- A field of a section, empty when the section does not set it. -/
def fieldOf (fields : Section) (key : String) : String := (fields.lookup key).getD ""

/-- The last section that sets the key. -/
def IsLastSetting (key : String) (sections : List Section) (last : Section) : Prop :=
  ∃ before after, sections = before ++ last :: after ∧ (last.lookup key).isSome = true ∧
    ∀ other ∈ after, other.lookup key = none

theorem lastValue_eq (blocks : List (String × Section)) (name key : String) :
    lastValue blocks name key =
      (blocks.filterMap fun block => if block.1 = name then some block.2 else none).findSome?
        (·.lookup key) := by
  induction blocks with
  | nil => rfl
  | cons block blocks ih =>
      rw [lastValue, List.findSome?_cons, List.filterMap_cons]
      rw [lastValue] at ih
      by_cases hname : block.1 = name
      · simp only [hname, if_true, List.findSome?_cons, ih]
      · simp only [hname, if_false, ih]

/-- The sections of the text, the latest first. -/
def blocksOfText (lower : String → String) (text : String) : List (String × Section) :=
  blocksOf ((lineSplitter text).map (readLine lower))

theorem lastValue_eq_some_iff {name key value text : String} :
    lastValue (blocksOfText lower text) name key = some value ↔
      ∃ last, IsLastSetting key (sectionsNamed name lower text) last ∧ last.lookup key = some value := by
  have hnamed : (blocksOfText lower text).filterMap (fun block =>
      if block.1 = name then some block.2 else none) = (sectionsNamed name lower text).reverse := by
    rw [sectionsNamed, List.filterMap_reverse, List.reverse_reverse]
    rfl
  rw [lastValue_eq, hnamed, List.findSome?_eq_some_iff]
  constructor
  · rintro ⟨later, last, earlier, hsplit, hvalue, hlater⟩
    refine ⟨last, ⟨earlier.reverse, later.reverse, ?_, by rw [hvalue]; rfl, ?_⟩, hvalue⟩
    · rw [← List.reverse_reverse (sectionsNamed name lower text), hsplit]
      simp
    · exact fun other hother => hlater other (List.mem_reverse.mp hother)
  · rintro ⟨last, ⟨before, after, hsplit, -, hafter⟩, hvalue⟩
    refine ⟨after.reverse, last, before.reverse, ?_, hvalue, ?_⟩
    · rw [hsplit]
      simp
    · exact fun other hother => hafter other (List.mem_reverse.mp hother)

/-- The parts of a parsed config that come from the peer, by the key they are read from. -/
def ParsedAwgConfig.peerFields (parsed : ParsedAwgConfig) : List (String × String) :=
  [("publickey", parsed.peerPublicKey), ("presharedkey", parsed.presharedKey),
    ("endpoint", parsed.details.endpoint), ("allowedips", parsed.details.allowedIps),
    ("persistentkeepalive", parsed.details.persistentKeepalive)]

def peerKeys : List String :=
  ["publickey", "presharedkey", "endpoint", "allowedips", "persistentkeepalive"]

theorem peerFields_of_parseConfigWith {text : String} {parsed : ParsedAwgConfig}
    (h : parseConfigWith lower text = .ok parsed) :
    parsed.peerFields = peerKeys.map fun key =>
      (key, (lastValue (blocksOfText lower text) "peer" key).getD "") := by
  have hmirrors : Mirrors ((lineSplitter text).foldl (parseLine lower) ⟨[], ""⟩)
      (blocksOfText lower text) := mirrors_start.run (lineSplitter text)
  unfold parseConfigWith at h
  dsimp only at h
  split at h
  · next iface peer hiface hpeer =>
      have hread : ∀ key, (peer.lookup key).getD "" =
          (lastValue (blocksOfText lower text) "peer" key).getD "" := by
        intro key
        rw [← hmirrors.values, hpeer]
        rfl
      split at h
      · cases h
      · cases h
        simp only [ParsedAwgConfig.peerFields, peerKeys, List.map_cons, List.map_nil, hread]
  · cases h

/-! ### One peer -/

/-- All that the config has of its peer is what this section says. -/
def TakenFrom (parsed : ParsedAwgConfig) (peer : Section) : Prop :=
  ∀ entry ∈ parsed.peerFields, entry.2 = fieldOf peer entry.1

/-- A section that agrees, on each of the keys read of a peer, with the last section that sets the key. -/
def HasLastWord (peers : List Section) (peer : Section) : Prop :=
  ∀ key ∈ peerKeys, ∀ last, IsLastSetting key peers last → fieldOf peer key = fieldOf last key

theorem fieldOf_of_unset {name key text : String} {peer : Section}
    (h : lastValue (blocksOfText lower text) name key = none)
    (hpeer : peer ∈ sectionsNamed name lower text) : fieldOf peer key = "" := by
  rw [lastValue_eq, List.findSome?_eq_none_iff] at h
  have hmem : peer ∈ (blocksOfText lower text).filterMap fun block =>
      if block.1 = name then some block.2 else none := by
    rw [sectionsNamed, List.filterMap_reverse, List.mem_reverse] at hpeer
    exact hpeer
  rw [fieldOf, h peer hmem]
  rfl

theorem lastValue_eq_fieldOf_iff {key text : String} {peer : Section}
    (hpeer : peer ∈ sectionsNamed "peer" lower text) :
    (lastValue (blocksOfText lower text) "peer" key).getD "" = fieldOf peer key ↔
      ∀ last, IsLastSetting key (sectionsNamed "peer" lower text) last →
        fieldOf peer key = fieldOf last key := by
  cases hvalue : lastValue (blocksOfText lower text) "peer" key with
  | none =>
      refine iff_of_true (fieldOf_of_unset hvalue hpeer).symm fun last hlast => ?_
      obtain ⟨value, hset⟩ : ∃ value, last.lookup key = some value :=
        Option.isSome_iff_exists.mp hlast.choose_spec.choose_spec.2.1
      rw [lastValue_eq_some_iff.mpr ⟨last, hlast, hset⟩] at hvalue
      cases hvalue
  | some value =>
      obtain ⟨last, hlast, hset⟩ := lastValue_eq_some_iff.mp hvalue
      have hfield : fieldOf last key = value := by rw [fieldOf, hset]; rfl
      constructor
      · intro heq other hother
        obtain ⟨otherValue, hother'⟩ : ∃ value, other.lookup key = some value :=
          Option.isSome_iff_exists.mp hother.choose_spec.choose_spec.2.1
        have hsame := lastValue_eq_some_iff.mpr ⟨other, hother, hother'⟩
        rw [hvalue] at hsame
        rw [← heq, fieldOf, hother', Option.getD_some, Option.getD_some, Option.some.inj hsame]
      · intro hagrees
        rw [hagrees last hlast, hfield]
        rfl

/-- **Several peers.** Everything that is read of the peer comes from one and the same section if and only
if some section agrees, on every key, with the last section that sets the key. -/
theorem one_peer_iff (lower : String → String) (text : String) {parsed : ParsedAwgConfig}
    (h : parseConfigWith lower text = .ok parsed) :
    (∃ peer ∈ sectionsNamed "peer" lower text, TakenFrom parsed peer) ↔
      ∃ peer ∈ sectionsNamed "peer" lower text, HasLastWord (sectionsNamed "peer" lower text) peer := by
  have htaken : ∀ peer ∈ sectionsNamed "peer" lower text,
      (TakenFrom parsed peer ↔ HasLastWord (sectionsNamed "peer" lower text) peer) := by
    intro peer hpeer
    rw [TakenFrom, peerFields_of_parseConfigWith h, HasLastWord]
    simp only [List.mem_map, forall_exists_index, and_imp, forall_apply_eq_imp_iff₂]
    exact forall₂_congr fun key _ => lastValue_eq_fieldOf_iff hpeer
  constructor
  · rintro ⟨peer, hpeer, hfrom⟩
    exact ⟨peer, hpeer, (htaken peer hpeer).mp hfrom⟩
  · rintro ⟨peer, hpeer, hlast⟩
    exact ⟨peer, hpeer, (htaken peer hpeer).mpr hlast⟩

theorem hasLastWord_of_agree {peers : List Section} {peer : Section}
    (h : ∀ other ∈ peers, ∀ key ∈ peerKeys, (other.lookup key).isSome → fieldOf peer key = fieldOf other key) :
    HasLastWord peers peer := by
  rintro key hkey last ⟨before, after, hsplit, hset, -⟩
  have hlast : last ∈ peers := hsplit ▸ List.mem_append_right _ List.mem_cons_self
  exact h last hlast key hkey hset

/-! Configs with two peers, the second without an endpoint: one of another server, and one of the same. -/

def onePeerText : String :=
  "[Interface]\nPrivateKey = k=\n\n[Peer]\nPublicKey = a=\nEndpoint = 213.176.93.13:51820\n"

def twoPeersText : String := onePeerText ++ "[Peer]\nPublicKey = b=\n"

/-- The key of the second peer is returned with the endpoint of the first. -/
theorem peers_mixed :
    ¬∀ text parsed, parseConfigWith toLowerCase text = .ok parsed →
      ∃ peer ∈ sectionsNamed "peer" toLowerCase text, TakenFrom parsed peer := by
  intro hclaim
  have hsections : sectionsNamed "peer" toLowerCase twoPeersText =
      [[("publickey", "a="), ("endpoint", "213.176.93.13:51820")], [("publickey", "b=")]] := by
    decide +kernel
  have hread : ((parseConfigWith toLowerCase twoPeersText).toOption.map fun parsed =>
      (parsed.peerPublicKey, parsed.details.endpoint)) = some ("b=", "213.176.93.13:51820") := by
    decide +kernel
  obtain ⟨parsed, hparsed, hfields⟩ := Option.map_eq_some_iff.mp hread
  have hok : parseConfigWith toLowerCase twoPeersText = .ok parsed := ok_of_toOption hparsed
  obtain ⟨hkey, hendpoint⟩ := Prod.mk.inj hfields
  obtain ⟨peer, hpeer, htaken⟩ := hclaim twoPeersText parsed hok
  have hpublic := htaken ("publickey", parsed.peerPublicKey) (by simp [ParsedAwgConfig.peerFields])
  have hremote := htaken ("endpoint", parsed.details.endpoint) (by simp [ParsedAwgConfig.peerFields])
  rw [hkey] at hpublic
  rw [hendpoint] at hremote
  rw [hsections, List.mem_cons, List.mem_singleton] at hpeer
  obtain rfl | rfl := hpeer
  · exact absurd hpublic (by decide)
  · exact absurd hremote (by decide)

def agreeingPeersText : String := onePeerText ++ "[Peer]\nPublicKey = a=\n"

/-- Of two peers with one key the first is returned. -/
theorem agreeing_peers_taken :
    ∃ parsed, parseConfigWith toLowerCase agreeingPeersText = .ok parsed ∧
      ∃ peer ∈ sectionsNamed "peer" toLowerCase agreeingPeersText, TakenFrom parsed peer := by
  have hsections : sectionsNamed "peer" toLowerCase agreeingPeersText =
      [[("publickey", "a="), ("endpoint", "213.176.93.13:51820")], [("publickey", "a=")]] := by
    decide +kernel
  have haccepted : (parseConfigWith toLowerCase agreeingPeersText).toOption.isSome = true := by decide +kernel
  obtain ⟨parsed, hparsed⟩ := exists_ok haccepted
  refine ⟨parsed, hparsed, (one_peer_iff toLowerCase agreeingPeersText hparsed).mpr ?_⟩
  rw [hsections]
  exact ⟨_, List.mem_cons_self, hasLastWord_of_agree (by decide)⟩

end Keenetic
