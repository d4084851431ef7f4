import Router1.Awg.RoundTrip
import Router1.Text.Groups

/-!
# The settings of the userspace device

`toAwgUserspaceString` writes a config as `key=value` lines for the device. A device takes the lines apart again:
a line `public_key` begins a peer, and the lines up to the next one belong to it. What the device reads is what the
config says, whatever texts stand in the config: no text of the config adds a line or moves a line to another peer.
-/

namespace Awg

open Dart Text Java

/-- A line `key=value`. -/
structure Setting where
  key : List Char
  value : List Char
  deriving DecidableEq

def Setting.line (s : Setting) : List Char := s.key ++ '=' :: s.value

/-! ### Addresses of hosts -/

section Resolution

variable {P : Platform}

/-- What an endpoint remembers of its last resolution, with the time of it in milliseconds. -/
structure Resolution where
  lastResolution : Int
  resolved : Option InetEndpoint

def Resolution.initial : Resolution := ⟨0, none⟩

/-- The time of a call, and what the names would resolve to: an address and the others, or nothing. -/
structure Lookup (P : Platform) where
  now : Int
  getAllByName : List Char → Option (P.Address × List P.Address)

namespace InetEndpoint

/-- The first `Inet4Address`, or the first address. -/
def preferred (P : Platform) (first : P.Address) (rest : List P.Address) : P.Address :=
  ((first :: rest).find? P.isInet4).getD first

/-- The last answer is older than a minute. -/
def expired (r : Resolution) (l : Lookup P) : Bool := 1 < (l.now - r.lastResolution).tdiv 60000

def getResolved (P : Platform) (e : InetEndpoint) (r : Resolution) (l : Lookup P) :
    Option InetEndpoint × Resolution :=
  if e.isResolved then (some e, r)
  else if expired r l then
    match l.getAllByName e.host with
    | some (first, rest) =>
        let resolved : InetEndpoint := ⟨P.getHostAddress (preferred P first rest), true, e.port⟩
        (some resolved, ⟨l.now, some resolved⟩)
    | none => (none, ⟨r.lastResolution, none⟩)
  else (r.resolved, r)

/-- What an endpoint remembers after calls of `getResolved`. -/
def remembered (P : Platform) (e : InetEndpoint) (lookups : List (Lookup P)) : Resolution :=
  lookups.foldl (fun r l => (e.getResolved P r l).2) .initial

/-- An endpoint with a numeric address, as it was read or as it was resolved. -/
def Numeric (P : Platform) (e : InetEndpoint) : Prop :=
  e.isResolved = true ∧ (e.Ok P ∨ ∃ a, e.host = P.getHostAddress a)

end InetEndpoint

end Resolution

namespace NumberAttribute

/-- The numbers that the device is told, in the order in which they are written. -/
def device : List NumberAttribute :=
  [listenPort, junkPacketCount, junkPacketMinSize, junkPacketMaxSize, initPacketJunkSize,
    responsePacketJunkSize, cookieReplyPacketJunkSize, transportPacketJunkSize]

/-- The key of a number; there is none for the MTU. -/
def key : NumberAttribute → List Char
  | listenPort => "listen_port".toList
  | mtu => []
  | junkPacketCount => "jc".toList
  | junkPacketMinSize => "jmin".toList
  | junkPacketMaxSize => "jmax".toList
  | initPacketJunkSize => "s1".toList
  | responsePacketJunkSize => "s2".toList
  | cookieReplyPacketJunkSize => "s3".toList
  | transportPacketJunkSize => "s4".toList

end NumberAttribute

def TextAttribute.key : TextAttribute → List Char
  | initPacketMagicHeader => "h1".toList
  | responsePacketMagicHeader => "h2".toList
  | underloadPacketMagicHeader => "h3".toList
  | transportPacketMagicHeader => "h4".toList
  | specialJunkI1 => "i1".toList
  | specialJunkI2 => "i2".toList
  | specialJunkI3 => "i3".toList
  | specialJunkI4 => "i4".toList
  | specialJunkI5 => "i5".toList

def hexText (key : Key) : List Char := key.toHex.map fun unit => Char.ofNat unit.toNat

section Writing

variable {P : Platform}

/-- The lines of `Interface.toAwgUserspaceString`. -/
def Interface.settings (i : Interface P) : List Setting :=
  ⟨"private_key".toList, hexText i.keyPair⟩ ::
    NumberAttribute.device.flatMap (fun a => (i.number a).toList.map fun n => ⟨a.key, decimal n.val⟩) ++
    TextAttribute.all.flatMap (fun a => (i.text a).toList.map fun text => ⟨a.key, text⟩)

/-- The lines of `Peer.toAwgUserspaceString` after the first, with what `getResolved` answers. -/
def Peer.settings (p : Peer P) (getResolved : InetEndpoint → Option InetEndpoint) : List Setting :=
  p.allowedIps.elements.map (fun network => ⟨"allowed_ip".toList, network.toString⟩) ++
    (p.endpoint.bind getResolved).toList.map (fun e => ⟨"endpoint".toList, e.toString⟩) ++
    p.persistentKeepalive.toList.map (fun n => ⟨"persistent_keepalive_interval".toList, decimal n.val⟩) ++
    p.preSharedKey.toList.map (fun key => ⟨"preshared_key".toList, hexText key⟩)

/-- The lines of `Config.toAwgUserspaceString`; each endpoint has an answer of its own, told by the place of its
peer. -/
def Config.settings (c : Config P) (getResolved : Nat → InetEndpoint → Option InetEndpoint) : List Setting :=
  c.interfaze.settings ++ [⟨"replace_peers".toList, "true".toList⟩] ++
    c.peers.zipIdx.flatMap fun x =>
      ⟨"public_key".toList, hexText x.1.publicKey⟩ :: x.1.settings (getResolved x.2)

def Config.toAwgUserspaceString (c : Config P) (getResolved : Nat → InetEndpoint → Option InetEndpoint) :
    List Char :=
  (c.settings getResolved).flatMap fun s => s.line ++ ['\n']

end Writing

/-! ### What the device reads -/

/-- The settings of a device: its own, and for each peer its key and its settings. -/
structure Device where
  settings : List Setting
  peers : List (List Char × List Setting)
  deriving DecidableEq

/-- A line is cut at its first `=`. -/
def readSetting (line : List Char) : Option Setting :=
  if '=' ∈ line then some ⟨line.takeWhile (· != '='), (line.dropWhile (· != '=')).drop 1⟩ else none

/-- A line `public_key` begins a peer. -/
def Setting.beginsPeer (s : Setting) : Bool := s.key == "public_key".toList

def readDevice (text : List Char) : Option Device :=
  ((text.splitOn '\n').dropLast.mapM readSetting).map fun settings =>
    ⟨(group Setting.beginsPeer settings).1,
      (group Setting.beginsPeer settings).2.map fun g => (g.1.value, g.2)⟩

def Config.device {P : Platform} (c : Config P) (getResolved : Nat → InetEndpoint → Option InetEndpoint) :
    Device where
  settings := c.interfaze.settings ++ [⟨"replace_peers".toList, "true".toList⟩]
  peers := c.peers.zipIdx.map fun x => (hexText x.1.publicKey, x.1.settings (getResolved x.2))

section Reading

variable {P : Platform}

/-- A setting that is read as it was written. -/
structure Setting.Ok (s : Setting) : Prop where
  key : '=' ∉ s.key ∧ '\n' ∉ s.key
  value : '\n' ∉ s.value

theorem readSetting_line {s : Setting} (h : s.Ok) : readSetting s.line = some s := by
  have hpass : ∀ c ∈ s.key, (c != '=') = true := by
    intro c hc
    simp only [bne_iff_ne, ne_eq]
    rintro rfl
    exact h.key.1 hc
  rw [readSetting, Setting.line, if_pos (by simp), List.takeWhile_append_of_pos hpass,
    List.dropWhile_append_of_pos hpass]
  simp

theorem splitOn_lines {lines : List (List Char)} (h : ∀ line ∈ lines, '\n' ∉ line) :
    (lines.flatMap fun line => line ++ ['\n']).splitOn '\n' = lines ++ [[]] := by
  induction lines with
  | nil => rfl
  | cons line lines ih =>
      obtain ⟨hline, hlines⟩ := List.forall_mem_cons.mp h
      rw [List.flatMap_cons, List.append_assoc, List.singleton_append,
        List.splitOn_append_cons_self_of_not_mem hline, ih hlines]
      rfl

theorem mapM_readSetting {settings : List Setting} (h : ∀ s ∈ settings, s.Ok) :
    (settings.map Setting.line).mapM readSetting = some settings := by
  induction settings with
  | nil => rfl
  | cons s settings ih =>
      obtain ⟨hs, hsettings⟩ := List.forall_mem_cons.mp h
      rw [List.map_cons, List.mapM_cons, readSetting_line hs, ih hsettings]
      rfl

theorem readDevice_lines {settings : List Setting} (h : ∀ s ∈ settings, s.Ok) :
    readDevice (settings.flatMap fun s => s.line ++ ['\n']) =
      some ⟨(group Setting.beginsPeer settings).1,
        (group Setting.beginsPeer settings).2.map fun g => (g.1.value, g.2)⟩ := by
  have hlines : ∀ line ∈ settings.map Setting.line, '\n' ∉ line := by
    intro line hline
    obtain ⟨s, hs, rfl⟩ := List.mem_map.mp hline
    rw [Setting.line, List.mem_append, List.mem_cons]
    rintro (hmem | hmem | hmem)
    · exact (h s hs).key.2 hmem
    · revert hmem
      decide
    · exact (h s hs).value hmem
  have htext : (settings.flatMap fun s => s.line ++ ['\n']) =
      (settings.map Setting.line).flatMap fun line => line ++ ['\n'] := by
    rw [List.flatMap_map]
  rw [readDevice, htext, splitOn_lines hlines, List.dropLast_concat, mapM_readSetting h]
  rfl

theorem Visible.ne_newline {c : Char} (h : Visible c) : c ≠ '\n' := by
  rintro rfl
  revert h
  decide

theorem newline_notMem {cs : List Char} (h : ∀ c ∈ cs, Visible c) : '\n' ∉ cs :=
  fun hc => (h _ hc).ne_newline rfl

theorem visible_hexText (key : Key) : ∀ c ∈ hexText key, Visible c := by
  intro c hc
  obtain ⟨unit, hunit, rfl⟩ := List.mem_map.mp hc
  exact (visible_ofNat (Key.lowerHex_of_mem_hexDigits hunit).2).1

theorem visible_decimal (n : Nat) : ∀ c ∈ decimal n, Visible c := fun _ hc => digit_visible hc

theorem newline_notMem_of_unbroken {text : List Char} (h : ∀ c ∈ text, isBreak c = false) : '\n' ∉ text := by
  intro hc
  have hbreak := h _ hc
  revert hbreak
  decide

theorem InetNetwork.visible (n : InetNetwork P) : ∀ c ∈ n.toString, Visible c := by
  intro c hc
  rw [toString, List.mem_append, List.mem_cons] at hc
  rcases hc with hc | rfl | hc
  · exact (P.hostAddress_addressed n.address c hc).visible
  · decide
  · exact digit_visible hc

theorem InetEndpoint.Numeric.visible {e : InetEndpoint} (h : e.Numeric P) : ∀ c ∈ e.toString, Visible c := by
  intro c hc
  rcases h.2 with hok | ⟨a, ha⟩
  · exact (hok.chars c hc).1
  · have hhost : ∀ d ∈ e.host, Visible d := by
      rw [ha]
      exact fun d hd => (P.hostAddress_addressed a d hd).visible
    rw [toString, List.mem_append, List.mem_cons] at hc
    rcases hc with hc | rfl | hc
    · split at hc
      next =>
        rw [List.mem_cons, List.mem_append, List.mem_singleton] at hc
        rcases hc with rfl | hc | rfl
        · decide
        · exact hhost c hc
        · decide
      next => exact hhost c hc
    · decide
    · exact digit_visible hc

def Resolution.Numeric (P : Platform) (r : Resolution) : Prop :=
  ∀ answer, r.resolved = some answer → answer.Numeric P

theorem InetEndpoint.getResolved_numeric {e : InetEndpoint} (he : e.Ok P) {r : Resolution} (hr : r.Numeric P)
    (l : Lookup P) :
    (∀ answer, (e.getResolved P r l).1 = some answer → answer.Numeric P) ∧ (e.getResolved P r l).2.Numeric P := by
  rw [getResolved]
  split
  next hresolved =>
    refine ⟨fun answer h => ?_, hr⟩
    cases h
    exact ⟨hresolved, .inl he⟩
  next =>
    split
    next =>
      split
      next first rest _ =>
        have hnumeric : (⟨P.getHostAddress (preferred P first rest), true, e.port⟩ : InetEndpoint).Numeric P :=
          ⟨rfl, .inr ⟨_, rfl⟩⟩
        refine ⟨fun answer h => ?_, fun answer h => ?_⟩
        · cases h
          exact hnumeric
        · cases h
          exact hnumeric
      next =>
        refine ⟨fun answer h => ?_, fun answer h => ?_⟩
        · cases h
        · cases h
    next => exact ⟨hr, hr⟩

theorem InetEndpoint.remembered_numeric {e : InetEndpoint} (he : e.Ok P) (lookups : List (Lookup P)) :
    (e.remembered P lookups).Numeric P := by
  have hrun : ∀ r : Resolution, r.Numeric P →
      (lookups.foldl (fun r l => (e.getResolved P r l).2) r).Numeric P := by
    induction lookups with
    | nil => exact fun r hr => hr
    | cons l lookups ih => exact fun r hr => ih _ (getResolved_numeric he hr l).2
  refine hrun .initial fun answer h => ?_
  cases h

theorem Setting.ok_of_key {key value : List Char} (hkey : ('=' ∉ key ∧ '\n' ∉ key) ∧ key ≠ "public_key".toList)
    (hvalue : '\n' ∉ value) : (⟨key, value⟩ : Setting).Ok ∧ (⟨key, value⟩ : Setting).beginsPeer = false :=
  ⟨⟨hkey.1, hvalue⟩, beq_eq_false_iff_ne.mpr hkey.2⟩

theorem Interface.settings_ok {i : Interface P} (hi : i.Unbroken) :
    ∀ s ∈ i.settings, s.Ok ∧ s.beginsPeer = false := by
  intro s hs
  simp only [settings, List.mem_append, List.mem_cons, List.mem_flatMap, List.mem_map, Option.mem_toList] at hs
  rcases hs with (rfl | ⟨a, ha, n, -, rfl⟩) | ⟨a, -, text, htext, rfl⟩
  · exact Setting.ok_of_key (by decide) (newline_notMem (visible_hexText _))
  · exact Setting.ok_of_key (by cases a <;> decide) (newline_notMem (visible_decimal _))
  · exact Setting.ok_of_key (by cases a <;> decide) (newline_notMem_of_unbroken (hi a text htext))

theorem Peer.settings_ok (p : Peer P) {getResolved : InetEndpoint → Option InetEndpoint}
    (hresolved : ∀ e answer, p.endpoint = some e → getResolved e = some answer → answer.Numeric P) :
    ∀ s ∈ p.settings getResolved, s.Ok ∧ s.beginsPeer = false := by
  intro s hs
  simp only [settings, List.mem_append, List.mem_map, Option.mem_toList] at hs
  rcases hs with ((⟨network, -, rfl⟩ | ⟨e, he, rfl⟩) | ⟨n, -, rfl⟩) | ⟨key, -, rfl⟩
  · exact Setting.ok_of_key (by decide) (newline_notMem network.visible)
  · obtain ⟨e', hendpoint, he'⟩ := Option.bind_eq_some_iff.mp he
    exact Setting.ok_of_key (by decide) (newline_notMem (hresolved e' e hendpoint he').visible)
  · exact Setting.ok_of_key (by decide) (newline_notMem (visible_decimal _))
  · exact Setting.ok_of_key (by decide) (newline_notMem (visible_hexText _))

/-- The endpoints of a config have numeric answers. -/
def Config.Resolves (c : Config P) (getResolved : Nat → InetEndpoint → Option InetEndpoint) : Prop :=
  ∀ k p, c.peers[k]? = some p → ∀ e answer, p.endpoint = some e → getResolved k e = some answer → answer.Numeric P

theorem readDevice_toAwgUserspaceString {c : Config P} (hc : c.Parsed)
    {getResolved : Nat → InetEndpoint → Option InetEndpoint} (hresolved : c.Resolves getResolved) :
    readDevice (c.toAwgUserspaceString getResolved) = some (c.device getResolved) := by
  let own : List Setting := c.interfaze.settings ++ [⟨"replace_peers".toList, "true".toList⟩]
  let groups : List (Setting × List Setting) :=
    c.peers.zipIdx.map fun x => (⟨"public_key".toList, hexText x.1.publicKey⟩, x.1.settings (getResolved x.2))
  have hpeer : ∀ x ∈ c.peers.zipIdx, ∀ s ∈ x.1.settings (getResolved x.2), s.Ok ∧ s.beginsPeer = false :=
    fun x hx => x.1.settings_ok (hresolved x.2 x.1 (List.mem_zipIdx_iff_getElem?.mp hx))
  have hown : ∀ s ∈ own, s.Ok ∧ s.beginsPeer = false := by
    intro s hs
    rcases List.mem_append.mp hs with hs | hs
    · exact Interface.settings_ok hc.unbroken s hs
    · rw [List.mem_singleton.mp hs]
      exact Setting.ok_of_key (by decide) (by decide)
  have hgroups : ∀ g ∈ groups, g.1.beginsPeer = true ∧ ∀ s ∈ g.2, s.beginsPeer = false := by
    intro g hg
    obtain ⟨x, hx, rfl⟩ := List.mem_map.mp hg
    exact ⟨beq_self_eq_true _, fun s hs => (hpeer x hx s hs).2⟩
  have hsettings : c.settings getResolved = own ++ ungroup groups := by
    rw [Config.settings, ungroup, List.flatMap_map]
  have hok : ∀ s ∈ c.settings getResolved, s.Ok := by
    intro s hs
    rw [hsettings, ungroup, List.mem_append, List.mem_flatMap] at hs
    rcases hs with hs | ⟨g, hg, hs⟩
    · exact (hown s hs).1
    · obtain ⟨x, hx, rfl⟩ := List.mem_map.mp hg
      rcases List.mem_cons.mp hs with rfl | hs
      · have hkey : '=' ∉ "public_key".toList ∧ '\n' ∉ "public_key".toList := by decide
        exact ⟨hkey, newline_notMem (visible_hexText _)⟩
      · exact (hpeer x hx s hs).1
  rw [Config.toAwgUserspaceString, readDevice_lines hok, hsettings,
    group_append_of_neg fun s hs => (hown s hs).2, group_ungroup hgroups, List.append_nil, Config.device,
    List.map_map]
  rfl

end Reading

/-! ### What the settings tell -/

section Values

variable {P : Platform}

/-- The values of the lines with a key, in their order. -/
def valuesOf (key : List Char) (settings : List Setting) : List (List Char) :=
  (settings.filter fun s => s.key == key).map Setting.value

theorem valuesOf_append (key : List Char) (first second : List Setting) :
    valuesOf key (first ++ second) = valuesOf key first ++ valuesOf key second := by
  rw [valuesOf, List.filter_append, List.map_append, valuesOf, valuesOf]

theorem valuesOf_of_ne {key : List Char} {settings : List Setting} (h : ∀ s ∈ settings, s.key ≠ key) :
    valuesOf key settings = [] := by
  have hnone : (settings.filter fun s => s.key == key) = [] :=
    List.filter_eq_nil_iff.mpr fun s hs => by simpa using h s hs
  rw [valuesOf, hnone]
  rfl

theorem valuesOf_singleton_of_ne {key other : List Char} (h : other ≠ key) (value : List Char) :
    valuesOf key [⟨other, value⟩] = [] :=
  valuesOf_of_ne fun s hs => by
    rw [List.mem_singleton.mp hs]
    exact h

theorem valuesOf_map_of_ne {β : Type} {key other : List Char} (h : other ≠ key) (value : β → List Char)
    (items : List β) : valuesOf key (items.map fun x => ⟨other, value x⟩) = [] := by
  refine valuesOf_of_ne fun s hs => ?_
  obtain ⟨x, -, rfl⟩ := List.mem_map.mp hs
  exact h

theorem valuesOf_map {β : Type} (key : List Char) (value : β → List Char) (items : List β) :
    valuesOf key (items.map fun x => ⟨key, value x⟩) = items.map value := by
  have hall : ((items.map fun x => (⟨key, value x⟩ : Setting)).filter fun s => s.key == key) =
      items.map fun x => ⟨key, value x⟩ := by
    refine List.filter_eq_self.mpr fun s hs => ?_
    obtain ⟨x, -, rfl⟩ := List.mem_map.mp hs
    exact beq_self_eq_true key
  rw [valuesOf, hall, List.map_map]
  rfl

theorem valuesOf_flatMap {ι : Type} {β : ι → Type} {keyOf : ι → List Char} {attributes : List ι}
    (hkeys : (attributes.map keyOf).Nodup) (items : (i : ι) → List (β i)) (value : (i : ι) → β i → List Char)
    {i : ι} (hi : i ∈ attributes) :
    valuesOf (keyOf i) (attributes.flatMap fun j => (items j).map fun x => ⟨keyOf j, value j x⟩) =
      (items i).map (value i) := by
  induction attributes with
  | nil => cases hi
  | cons j attributes ih =>
      rw [List.map_cons, List.nodup_cons] at hkeys
      rw [List.flatMap_cons, valuesOf_append]
      rcases List.mem_cons.mp hi with rfl | hi
      · rw [valuesOf_map, valuesOf_of_ne, List.append_nil]
        intro s hs hkey
        obtain ⟨k, hk, hs⟩ := List.mem_flatMap.mp hs
        obtain ⟨x, -, rfl⟩ := List.mem_map.mp hs
        exact hkeys.1 (List.mem_map.mpr ⟨k, hk, hkey⟩)
      · rw [valuesOf_of_ne, List.nil_append, ih hkeys.2 hi]
        intro s hs hkey
        obtain ⟨x, -, rfl⟩ := List.mem_map.mp hs
        exact hkeys.1 (List.mem_map.mpr ⟨i, hi, hkey.symm⟩)

theorem key_of_mem_numbers {i : Interface P} {s : Setting}
    (h : s ∈ NumberAttribute.device.flatMap fun a => (i.number a).toList.map fun n => ⟨a.key, decimal n.val⟩) :
    ∃ a ∈ NumberAttribute.device, s.key = a.key := by
  obtain ⟨a, ha, hs⟩ := List.mem_flatMap.mp h
  obtain ⟨n, -, rfl⟩ := List.mem_map.mp hs
  exact ⟨a, ha, rfl⟩

theorem key_of_mem_texts {i : Interface P} {s : Setting}
    (h : s ∈ TextAttribute.all.flatMap fun a => (i.text a).toList.map fun text => ⟨a.key, text⟩) :
    ∃ a : TextAttribute, s.key = a.key := by
  obtain ⟨a, -, hs⟩ := List.mem_flatMap.mp h
  obtain ⟨text, -, rfl⟩ := List.mem_map.mp hs
  exact ⟨a, rfl⟩

theorem number_key_ne_text_key : ∀ a ∈ NumberAttribute.device, ∀ b : TextAttribute, a.key ≠ b.key := by
  intro a _ b
  cases a <;> cases b <;> decide

theorem Interface.valuesOf_privateKey (i : Interface P) :
    valuesOf "private_key".toList i.settings = [hexText i.keyPair] := by
  have hnumbers : valuesOf "private_key".toList (NumberAttribute.device.flatMap fun a =>
      (i.number a).toList.map fun n => ⟨a.key, decimal n.val⟩) = [] := by
    refine valuesOf_of_ne fun s hs => ?_
    obtain ⟨a, -, hkey⟩ := key_of_mem_numbers hs
    rw [hkey]
    cases a <;> decide
  have htexts : valuesOf "private_key".toList (TextAttribute.all.flatMap fun a =>
      (i.text a).toList.map fun text => ⟨a.key, text⟩) = [] := by
    refine valuesOf_of_ne fun s hs => ?_
    obtain ⟨a, hkey⟩ := key_of_mem_texts hs
    rw [hkey]
    cases a <;> decide
  rw [settings, List.cons_append, ← List.singleton_append, valuesOf_append, valuesOf_append, hnumbers, htexts]
  rfl

theorem Interface.valuesOf_number (i : Interface P) {a : NumberAttribute} (ha : a ∈ NumberAttribute.device) :
    valuesOf a.key i.settings = (i.number a).toList.map fun n => decimal n.val := by
  have hfirst : valuesOf a.key [⟨"private_key".toList, hexText i.keyPair⟩] = [] :=
    valuesOf_singleton_of_ne (by cases a <;> decide) _
  rw [settings, List.cons_append, ← List.singleton_append, valuesOf_append, valuesOf_append, hfirst,
    valuesOf_flatMap (by decide) _ _ ha, valuesOf_of_ne fun s hs => ?_, List.append_nil, List.nil_append]
  obtain ⟨b, hkey⟩ := key_of_mem_texts hs
  rw [hkey]
  exact (number_key_ne_text_key a ha b).symm

theorem Interface.valuesOf_text (i : Interface P) (a : TextAttribute) :
    valuesOf a.key i.settings = (i.text a).toList := by
  have hfirst : valuesOf a.key [⟨"private_key".toList, hexText i.keyPair⟩] = [] :=
    valuesOf_singleton_of_ne (by cases a <;> decide) _
  rw [settings, List.cons_append, ← List.singleton_append, valuesOf_append, valuesOf_append, hfirst,
    valuesOf_of_ne fun s hs => ?_, valuesOf_flatMap (by decide) _ (fun _ text => text) (TextAttribute.mem_all a),
    List.nil_append, List.nil_append]
  · exact List.map_id _
  · obtain ⟨b, hb, hkey⟩ := key_of_mem_numbers hs
    rw [hkey]
    exact number_key_ne_text_key b hb a

theorem Peer.valuesOf_settings (p : Peer P) (getResolved : InetEndpoint → Option InetEndpoint) :
    valuesOf "allowed_ip".toList (p.settings getResolved) = p.allowedIps.elements.map InetNetwork.toString ∧
    valuesOf "endpoint".toList (p.settings getResolved) =
      (p.endpoint.bind getResolved).toList.map InetEndpoint.toString ∧
    valuesOf "persistent_keepalive_interval".toList (p.settings getResolved) =
      p.persistentKeepalive.toList.map (fun n => decimal n.val) ∧
    valuesOf "preshared_key".toList (p.settings getResolved) = p.preSharedKey.toList.map hexText := by
  simp only [settings, valuesOf_append]
  refine ⟨?_, ?_, ?_, ?_⟩
  · rw [valuesOf_map, valuesOf_map_of_ne (by decide), valuesOf_map_of_ne (by decide),
      valuesOf_map_of_ne (by decide)]
    simp
  · rw [valuesOf_map_of_ne (by decide), valuesOf_map, valuesOf_map_of_ne (by decide),
      valuesOf_map_of_ne (by decide)]
    simp
  · rw [valuesOf_map_of_ne (by decide), valuesOf_map_of_ne (by decide), valuesOf_map,
      valuesOf_map_of_ne (by decide)]
    simp
  · rw [valuesOf_map_of_ne (by decide), valuesOf_map_of_ne (by decide), valuesOf_map_of_ne (by decide),
      valuesOf_map]
    simp

theorem hexText_injective {key key' : Key} (h : hexText key = hexText key') : key = key' := by
  have hunits : ∀ key : Key, (hexText key).map (fun c => c.toNat.toUInt16) = key.toHex := by
    intro key
    rw [hexText, List.map_map]
    have hid : ∀ unit ∈ key.toHex, ((fun c : Char => c.toNat.toUInt16) ∘ fun unit => Char.ofNat unit.toNat) unit =
        unit := by
      intro unit hunit
      have hle := (Key.lowerHex_of_mem_hexDigits hunit).2.2.1
      rw [Function.comp_apply, toNat_ofNat (by omega)]
      simp
    rw [List.map_congr_left hid]
    exact List.map_id _
  refine Key.toHex_injective ?_
  rw [← hunits key, ← hunits key', h]

theorem decimal_injective {m n : Nat} (h : decimal m = decimal n) : m = n := by
  rw [← digitsValue_toDigits m, ← digitsValue_toDigits n]
  exact congrArg digitsValue h

theorem InetNetwork.toString_injective {m n : InetNetwork P} (h : m.toString = n.toString) : m = n := by
  have hm := m.parse_toString
  rw [h, n.parse_toString] at hm
  exact (Except.ok.inj hm).symm

theorem toList_map_injective {α β : Type} {f : α → β} (hf : ∀ x y, f x = f y → x = y) {a b : Option α}
    (h : a.toList.map f = b.toList.map f) : a = b := by
  cases a with
  | none =>
      cases b with
      | none => rfl
      | some y => cases h
  | some x =>
      cases b with
      | none => cases h
      | some y =>
          rw [hf x y (List.cons.inj h).1]

/-- Peers that no device can tell apart, with the answers for their endpoints. -/
def Peer.SameForDevice (getResolved getResolved' : InetEndpoint → Option InetEndpoint) (p p' : Peer P) : Prop :=
  p.publicKey = p'.publicKey ∧ p.allowedIps = p'.allowedIps ∧ p.persistentKeepalive = p'.persistentKeepalive ∧
    p.preSharedKey = p'.preSharedKey ∧
    (p.endpoint.bind getResolved).map InetEndpoint.toString =
      (p'.endpoint.bind getResolved').map InetEndpoint.toString

theorem Peer.sameForDevice {p p' : Peer P} {getResolved getResolved' : InetEndpoint → Option InetEndpoint}
    (hkey : hexText p.publicKey = hexText p'.publicKey) (h : p.settings getResolved = p'.settings getResolved') :
    p.SameForDevice getResolved getResolved' p' := by
  obtain ⟨hallowed, hendpoint, hkeepalive, hpreshared⟩ := p.valuesOf_settings getResolved
  rw [h] at hallowed hendpoint hkeepalive hpreshared
  obtain ⟨hallowed', hendpoint', hkeepalive', hpreshared'⟩ := p'.valuesOf_settings getResolved'
  rw [hallowed'] at hallowed
  rw [hendpoint'] at hendpoint
  rw [hkeepalive'] at hkeepalive
  rw [hpreshared'] at hpreshared
  refine ⟨hexText_injective hkey, LinkedHashSet.ext ?_, ?_, ?_, ?_⟩
  · exact (List.map_injective_iff.mpr (fun _ _ h => InetNetwork.toString_injective h) hallowed).symm
  · exact toList_map_injective (fun x y hxy => Subtype.ext (decimal_injective hxy)) hkeepalive.symm
  · exact toList_map_injective (fun x y hxy => hexText_injective hxy) hpreshared.symm
  · refine toList_map_injective (f := id) (fun _ _ h => h) ?_
    rw [List.map_id, List.map_id, Option.toList_map, Option.toList_map]
    exact hendpoint.symm

/-- Interfaces that no device can tell apart. -/
def Interface.SameForDevice (i i' : Interface P) : Prop :=
  i.keyPair = i'.keyPair ∧ (∀ a ∈ NumberAttribute.device, i.number a = i'.number a) ∧ i.text = i'.text

theorem Interface.sameForDevice {i i' : Interface P} (h : i.settings = i'.settings) : i.SameForDevice i' := by
  refine ⟨?_, fun a ha => ?_, funext fun a => ?_⟩
  · have hkey := i.valuesOf_privateKey
    rw [h, i'.valuesOf_privateKey] at hkey
    exact (hexText_injective (List.cons.inj hkey).1).symm
  · have hnumber := i.valuesOf_number ha
    rw [h, i'.valuesOf_number ha] at hnumber
    exact toList_map_injective (fun x y hxy => Subtype.ext (decimal_injective hxy)) hnumber.symm
  · have htext := i.valuesOf_text a
    rw [h, i'.valuesOf_text a] at htext
    exact toList_map_injective (f := id) (fun _ _ h => h) (by rw [List.map_id, List.map_id]; exact htext.symm)

theorem Config.sameForDevice {c c' : Config P} {getResolved getResolved' : Nat → InetEndpoint → Option InetEndpoint}
    (h : c.device getResolved = c'.device getResolved') :
    c.interfaze.SameForDevice c'.interfaze ∧ c.peers.length = c'.peers.length ∧
      ∀ (k : Nat) (p p' : Peer P), c.peers[k]? = some p → c'.peers[k]? = some p' →
        p.SameForDevice (getResolved k) (getResolved' k) p' := by
  have hpeers := congrArg Device.peers h
  refine ⟨Interface.sameForDevice (List.append_cancel_right (congrArg Device.settings h)), ?_, ?_⟩
  · have hlength := congrArg List.length hpeers
    simpa only [Config.device, List.length_map, List.length_zipIdx] using hlength
  · intro k p p' hp hp'
    have hk := congrArg (fun peers => peers[k]?) hpeers
    simp only [Config.device, List.getElem?_map, List.getElem?_zipIdx, hp, hp', Option.map_some, Nat.zero_add,
      Option.some.injEq, Prod.mk.injEq] at hk
    exact Peer.sameForDevice hk.1 hk.2

end Values

/-! ### Configs that were read -/

section Texts

variable {P : Platform}

/-- The answers of the endpoints after earlier calls of `getResolved`. -/
def answers (P : Platform) (earlier : Nat → List (Lookup P)) (last : Nat → Lookup P) (k : Nat) (e : InetEndpoint) :
    Option InetEndpoint :=
  (e.getResolved P (e.remembered P (earlier k)) (last k)).1

theorem Config.resolves_answers {c : Config P} (hc : c.Parsed) (earlier : Nat → List (Lookup P))
    (last : Nat → Lookup P) : c.Resolves (answers P earlier last) := by
  intro k p hp e answer he
  have hok : e.Ok P := hc.peers p (List.mem_of_getElem? hp) e he
  exact (InetEndpoint.getResolved_numeric hok (InetEndpoint.remembered_numeric hok _) _).1 answer

/-- **From a text to the device.** Whatever stands in the text and whatever the names resolve to, the device reads
the settings of the config, each peer with its own. -/
theorem Config.device_of_text {text : List Char} {c : Config P} (h : Config.parse P text = .ok c)
    (earlier : Nat → List (Lookup P)) (last : Nat → Lookup P) :
    readDevice (c.toAwgUserspaceString (answers P earlier last)) = some (c.device (answers P earlier last)) := by
  have hc := Config.parsed_of_parse h
  exact readDevice_toAwgUserspaceString hc (resolves_answers hc earlier last)

/-- **The settings tell the config.** Configs that were read and have the same userspace string have the same
private key, the same numbers apart from the MTU, the same texts and, one by one, peers that no device can tell
apart. -/
theorem Config.same_of_same_settings {text text' : List Char} {c c' : Config P}
    (h : Config.parse P text = .ok c) (h' : Config.parse P text' = .ok c')
    (earlier earlier' : Nat → List (Lookup P)) (last last' : Nat → Lookup P)
    (hsame : c.toAwgUserspaceString (answers P earlier last) = c'.toAwgUserspaceString (answers P earlier' last')) :
    c.interfaze.SameForDevice c'.interfaze ∧ c.peers.length = c'.peers.length ∧
      ∀ (k : Nat) (p p' : Peer P), c.peers[k]? = some p → c'.peers[k]? = some p' →
        p.SameForDevice (answers P earlier last k) (answers P earlier' last' k) p' := by
  have hc := Config.parsed_of_parse h
  have hc' := Config.parsed_of_parse h'
  have hread := readDevice_toAwgUserspaceString hc (resolves_answers hc earlier last)
  rw [hsame, readDevice_toAwgUserspaceString hc' (resolves_answers hc' earlier' last')] at hread
  exact Config.sameForDevice (Option.some.inj hread).symm

/-- Every name is known, as 10.0.0.1. -/
def sampleLookup : Lookup ascii where
  now := 120000
  getAllByName _ := (ascii.parseNumericAddress "10.0.0.1".toList).map fun a => (a, [])

theorem Config.sample_device_of_text : ∃ c, Config.parse ascii sampleText = .ok c ∧
    readDevice (c.toAwgUserspaceString (answers ascii (fun _ => []) fun _ => sampleLookup)) =
      some (c.device (answers ascii (fun _ => []) fun _ => sampleLookup)) := by
  cases h : Config.parse ascii sampleText with
  | error e =>
      have hok := sampleText_isOk
      rw [h] at hok
      cases hok
  | ok c => exact ⟨c, rfl, Config.device_of_text h _ _⟩

/-- A comment that the parser drops. -/
def commentedText : List Char := sampleText ++ "# away".toList

theorem commentedText_settings :
    (Config.parse ascii commentedText).toOption.map (fun c =>
      c.toAwgUserspaceString (answers ascii (fun _ => []) fun _ => sampleLookup)) =
    (Config.parse ascii sampleText).toOption.map (fun c =>
      c.toAwgUserspaceString (answers ascii (fun _ => []) fun _ => sampleLookup)) := by decide +kernel

theorem commentedText_isOk : (Config.parse ascii commentedText).toOption.isSome = true := by decide +kernel

theorem Config.sample_same_of_same_settings : ∃ c c', Config.parse ascii sampleText = .ok c ∧
    Config.parse ascii commentedText = .ok c' ∧ c.interfaze.SameForDevice c'.interfaze := by
  cases h : Config.parse ascii sampleText with
  | error e =>
      have hok := sampleText_isOk
      rw [h] at hok
      cases hok
  | ok c =>
      cases h' : Config.parse ascii commentedText with
      | error e =>
          have hok := commentedText_isOk
          rw [h'] at hok
          cases hok
      | ok c' =>
          have hsettings := commentedText_settings
          rw [h, h'] at hsettings
          exact ⟨c, c', rfl, rfl, (Config.same_of_same_settings h h'
            (fun _ => []) (fun _ => []) (fun _ => sampleLookup) (fun _ => sampleLookup)
            (Option.some.inj hsettings).symm).1⟩

end Texts

end Awg
