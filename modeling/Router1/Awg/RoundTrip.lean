import Router1.Awg.Ascii
import Router1.Awg.Parsed

/-!
# A printed config is read again

`toAwgQuickString` and `parse`. Every line that is printed for a config that was read sets the attribute it was
printed from, and nothing else, so that reading the printed text gives the config again. Two things are lost:
search domains without a server, for which no line is printed, and an application without a name that comes after
others, which ends the line with a comma.
-/

namespace Awg

open Dart Text Java

variable {P : Platform}

section Keys

theorem toNat_ofNat {n : Nat} (h : n < 0xd800) : (Char.ofNat n).toNat = n := by
  have hvalid : n.isValidChar := .inl h
  rw [Char.ofNat, dif_pos hvalid]
  rfl

theorem toCharArray_keyText (key : Key) : toCharArray (keyText key) = key.toBase64 := by
  rw [toCharArray, keyText, List.flatMap_map]
  have hunits : ∀ unit ∈ key.toBase64, charUnits (Char.ofNat unit.toNat) = [unit] := by
    intro unit hunit
    have hle := (Key.isUnit_of_mem_toBase64 hunit).2.1
    rw [charUnits, toNat_ofNat (by omega), if_pos (by omega)]
    simp
  rw [List.flatMap_congr hunits]
  simp

theorem visible_ofNat {unit : UInt16} (h : Key.IsUnit unit) :
    Visible (Char.ofNat unit.toNat) ∧ Char.ofNat unit.toNat ≠ ',' ∧ Char.ofNat unit.toNat ≠ '#' := by
  obtain ⟨hlow, hhigh, hcomma⟩ := h
  have hnat := toNat_ofNat (n := unit.toNat) (by omega)
  refine ⟨⟨by omega, by omega⟩, ?_, ?_⟩
  · intro h
    rw [h] at hnat
    exact hcomma hnat.symm
  · intro h
    rw [h] at hnat
    have hmark : '#'.toNat = 35 := by decide
    omega

theorem isField_keyText (key : Key) : IsField P (keyText key) := by
  refine isField_of_visible fun c hc => ?_
  obtain ⟨unit, hunit, rfl⟩ := List.mem_map.mp hc
  exact visible_ofNat (Key.isUnit_of_mem_toBase64 hunit)

theorem parseKey_keyText (inSection : BadConfigException.InSection) (location : BadConfigException.Location)
    (key : Key) : parseKey inSection location (keyText key) = .ok key := by
  rw [parseKey, toCharArray_keyText, Key.fromBase64_toBase64]

end Keys

section Names

/-- The letters and digits of a key. -/
def isNameChar (c : Char) : Bool := c.isAlphanum && decide (Visible c)

theorem isName {name : List Char} (hne : name ≠ []) (h : name.all isNameChar = true) : IsName P name where
  ne_nil := hne
  visible c hc := by
    have hchar := List.all_eq_true.mp h c hc
    rw [isNameChar, Bool.and_eq_true, decide_eq_true_eq] at hchar
    exact hchar.2
  word c hc := by
    have hchar := List.all_eq_true.mp h c hc
    rw [isNameChar, Bool.and_eq_true, decide_eq_true_eq] at hchar
    exact (P.word_iff c hchar.2).mpr (.inl hchar.1)

theorem lower_name {name : List Char} (h : IsName P name) :
    String.ofList (P.lower name) = String.ofList (name.map Char.toLower) := by
  rw [P.lower_ascii name fun c hc => Nat.lt_succ_of_lt (h.visible c hc).2]

end Names

section Peers

variable {b : Peer.Builder P} {name value : List Char}

theorem addNetworks_toString (inSection : BadConfigException.InSection) (location : BadConfigException.Location)
    (networks : LinkedHashSet (InetNetwork P)) (more : List (InetNetwork P)) :
    addNetworks inSection location networks (more.map InetNetwork.toString) = .ok (networks.addAll more) := by
  induction more generalizing networks with
  | nil => rfl
  | cons network more ih =>
      rw [List.map_cons, addNetworks, InetNetwork.parse_toString]
      exact ih (networks.add network)

theorem addNetworks_join (inSection : BadConfigException.InSection) (location : BadConfigException.Location)
    {networks : LinkedHashSet (InetNetwork P)} (hne : networks.isEmpty = false) :
    addNetworks inSection location .empty
      (Attribute.split P (strip P.space (Attribute.join (networks.elements.map InetNetwork.toString)))) =
        .ok networks := by
  have hfields : ∀ text ∈ networks.elements.map InetNetwork.toString, IsField P text := by
    intro text htext
    obtain ⟨network, -, rfl⟩ := List.mem_map.mp htext
    exact network.isField
  have htexts : ∀ text ∈ networks.elements.map InetNetwork.toString, text ≠ [] := by
    intro text htext
    obtain ⟨network, -, rfl⟩ := List.mem_map.mp htext
    rw [InetNetwork.toString]
    exact List.append_ne_nil_of_right_ne_nil _ (List.cons_ne_nil _ _)
  have helements : networks.elements.map InetNetwork.toString ≠ [] := by
    rw [LinkedHashSet.isEmpty, List.isEmpty_eq_false_iff] at hne
    simpa using hne
  rw [split_join helements hfields, kept_of_ne_nil htexts, addNetworks_toString, LinkedHashSet.addAll_elements]

theorem inline_join_networks (networks : LinkedHashSet (InetNetwork P)) :
    ∀ c ∈ Attribute.join (networks.elements.map InetNetwork.toString), Inline P c := by
  refine inline_join fun text htext => ?_
  obtain ⟨network, -, rfl⟩ := List.mem_map.mp htext
  exact network.isField

theorem parseBounded_decimal (inSection : BadConfigException.InSection) (location : BadConfigException.Location)
    {max : Nat} (hmax : max < 2147483648) (n : Bounded max) :
    parseBounded P inSection location max (strip P.space (decimal n)) = .ok (some n) := by
  obtain ⟨n, hpos, hle⟩ := n
  have hstripped : Stripped P.space (decimal n) :=
    stripped_of_visible fun c hc => P.space_visible c (digit_visible hc)
  rw [hstripped, parseBounded, parseInt_decimal (by omega)]
  simp only
  rw [bounded, dif_pos ⟨hpos, hle⟩]
  rfl

theorem inline_decimal (n : Nat) : ∀ c ∈ decimal n, Inline P c :=
  fun _ hc => (digit_visible hc).inline (digit_ne hc '#' (by decide))

namespace Peer.Builder

theorem parseLine_lineOf (hname : IsName P name) (hvalue : ∀ c ∈ value, Inline P c) :
    b.parseLine (trim (lineOf name value)) = b.setAttribute ⟨name, strip P.space value⟩ := by
  rw [parseLine, parse_lineOf hname hvalue]

theorem parseLine_allowedIps (hempty : b.allowedIps = .empty) {networks : LinkedHashSet (InetNetwork P)}
    (hne : networks.isEmpty = false) :
    b.parseLine (trim (lineOf "AllowedIPs".toList
      (Attribute.join (networks.elements.map InetNetwork.toString)))) = .ok { b with allowedIps := networks } := by
  have hname : IsName P "AllowedIPs".toList := isName (by decide) (by decide)
  rw [parseLine_lineOf hname (inline_join_networks networks), setAttribute, lower_name hname]
  show b.parseAllowedIPs _ = _
  rw [parseAllowedIPs, hempty, addNetworks_join _ _ hne]
  rfl

theorem parseLine_endpoint {e : InetEndpoint} (he : e.Ok P) :
    b.parseLine (trim (lineOf "Endpoint".toList e.toString)) = .ok { b with endpoint := some e } := by
  have hname : IsName P "Endpoint".toList := isName (by decide) (by decide)
  have hfield := he.isField
  rw [parseLine_lineOf hname hfield.inline, hfield.stripped, setAttribute, lower_name hname]
  show b.parseEndpoint e.toString = _
  rw [parseEndpoint, he.parse_toString]
  rfl

theorem parseLine_persistentKeepalive (n : Bounded 65535) :
    b.parseLine (trim (lineOf "PersistentKeepalive".toList (decimal n))) =
      .ok { b with persistentKeepalive := some n } := by
  have hname : IsName P "PersistentKeepalive".toList := isName (by decide) (by decide)
  rw [parseLine_lineOf hname (inline_decimal n), setAttribute, lower_name hname]
  show b.parsePersistentKeepalive _ = _
  rw [parsePersistentKeepalive, parseBounded_decimal _ _ (by omega)]
  rfl

theorem parseLine_preSharedKey (key : Key) :
    b.parseLine (trim (lineOf "PreSharedKey".toList (keyText key))) = .ok { b with preSharedKey := some key } := by
  have hname : IsName P "PreSharedKey".toList := isName (by decide) (by decide)
  have hfield := isField_keyText (P := P) key
  rw [parseLine_lineOf hname hfield.inline, hfield.stripped, setAttribute, lower_name hname]
  show b.parsePreSharedKey (keyText key) = _
  rw [parsePreSharedKey, parseKey_keyText]
  rfl

theorem parseLine_publicKey (key : Key) :
    b.parseLine (trim (lineOf "PublicKey".toList (keyText key))) = .ok { b with publicKey := some key } := by
  have hname : IsName P "PublicKey".toList := isName (by decide) (by decide)
  have hfield := isField_keyText (P := P) key
  rw [parseLine_lineOf hname hfield.inline, hfield.stripped, setAttribute, lower_name hname]
  show b.parsePublicKey (keyText key) = _
  rw [parsePublicKey, parseKey_keyText]
  rfl

end Peer.Builder

/-- **A printed peer.** -/
theorem Peer.parse_quickLines {p : Peer P} (hp : p.Ok) : Peer.parse P (p.quickLines.map trim) = .ok p := by
  obtain ⟨allowedIps, endpoint, persistentKeepalive, preSharedKey, publicKey⟩ := p
  let b1 : Builder P := { (Builder.initial : Builder P) with allowedIps := allowedIps }
  let b2 : Builder P := { b1 with endpoint := endpoint }
  let b3 : Builder P := { b2 with persistentKeepalive := persistentKeepalive }
  let b4 : Builder P := { b3 with preSharedKey := preSharedKey }
  have h1 : (if allowedIps.isEmpty then [] else [trim (lineOf "AllowedIPs".toList
      (Attribute.join (allowedIps.elements.map InetNetwork.toString)))]).foldlM Builder.parseLine Builder.initial =
        .ok b1 := by
    refine foldlM_unless (fun h => ?_) fun h => Builder.parseLine_allowedIps rfl h
    simp only [b1, LinkedHashSet.eq_empty h]
    rfl
  have h2 : (endpoint.toList.map (trim ∘ fun e => lineOf "Endpoint".toList e.toString)).foldlM
      Builder.parseLine b1 = .ok b2 := by
    refine foldlM_option (fun h => ?_) fun e he => ?_
    · simp only [b2, h]
      rfl
    · simp only [b2, he]
      exact Builder.parseLine_endpoint (hp e he)
  have h3 : (persistentKeepalive.toList.map
      (trim ∘ fun n => lineOf "PersistentKeepalive".toList (decimal n.val))).foldlM Builder.parseLine b2 = .ok b3 := by
    refine foldlM_option (fun h => ?_) fun n hn => ?_
    · simp only [b3, h]
      rfl
    · simp only [b3, hn]
      exact Builder.parseLine_persistentKeepalive n
  have h4 : (preSharedKey.toList.map (trim ∘ fun key => lineOf "PreSharedKey".toList (keyText key))).foldlM
      Builder.parseLine b3 = .ok b4 := by
    refine foldlM_option (fun h => ?_) fun key hkey => ?_
    · simp only [b4, h]
      rfl
    · simp only [b4, hkey]
      exact Builder.parseLine_preSharedKey key
  simp only [Peer.parse, quickLines, List.map_append, List.append_assoc, List.map_map, apply_ite (List.map trim),
    List.map_nil, List.map_singleton]
  rw [foldlM_append_ok h1, foldlM_append_ok h2, foldlM_append_ok h3, foldlM_append_ok h4,
    foldlM_cons_ok (Builder.parseLine_publicKey publicKey)]
  rfl

end Peers

section Hostnames

theorem labelChar {c : Char} (h : (InetAddresses.isAlphanumeric c || c == '-') = true) :
    Visible c ∧ c ≠ ',' ∧ c ≠ '#' := by
  simp only [InetAddresses.isAlphanumeric, Bool.or_eq_true, Bool.and_eq_true, decide_eq_true_eq, beq_iff_eq] at h
  rcases h with h | rfl
  · refine ⟨⟨by omega, by omega⟩, ?_, ?_⟩
    · rintro rfl
      revert h
      decide
    · rintro rfl
      revert h
      decide
  · decide

theorem isField_hostname {d : List Char} (h : InetAddresses.isHostname d = true) : IsField P d := by
  refine isField_of_visible fun c hc => ?_
  by_cases hdot : c = '.'
  · subst hdot
    decide
  obtain ⟨label, hlabel, hmem⟩ := (mem_iff_splitChars hdot).mp hc
  simp only [InetAddresses.isHostname, Bool.and_eq_true, Bool.or_eq_true, beq_iff_eq] at h
  have hchars : ∀ {labels : List (List Char)}, labels.all InetAddresses.isLabel = true → label ∈ labels →
      Visible c ∧ c ≠ ',' ∧ c ≠ '#' := by
    intro labels hall hin
    have hl := List.all_eq_true.mp hall label hin
    simp only [InetAddresses.isLabel, Bool.and_eq_true] at hl
    exact labelChar (List.all_eq_true.mp hl.1.1.2 c hmem)
  rcases h.2 with hall | ⟨⟨hlast, -⟩, hall⟩
  · exact hchars hall hlabel
  · refine hchars hall ?_
    obtain ⟨front, hfront⟩ : ∃ front, splitChars '.' d = front ++ [[]] := List.getLast?_eq_some_iff.mp hlast
    rw [hfront, List.mem_append] at hlabel
    rw [hfront, List.dropLast_concat]
    refine hlabel.resolve_right fun hin => ?_
    rw [List.mem_singleton.mp hin] at hmem
    cases hmem

theorem hostname_ne_nil {d : List Char} (h : InetAddresses.isHostname d = true) : d ≠ [] := by
  rintro rfl
  revert h
  decide

end Hostnames

section Interfaces

variable {b : Interface.Builder P} {name value : List Char}

/-- What is left of a set of applications. -/
def keptSet (s : LinkedHashSet (List Char)) : LinkedHashSet (List Char) :=
  ⟨kept s.elements, (kept_isPrefix s.elements).sublist.nodup s.nodup⟩

/-- What is left of an interface once it was printed and read again. -/
def Interface.kept (i : Interface P) : Interface P where
  addresses := i.addresses
  dnsServers := i.dnsServers
  dnsSearchDomains := if i.dnsServers.isEmpty then .empty else i.dnsSearchDomains
  excludedApplications := keptSet i.excludedApplications
  includedApplications := keptSet i.includedApplications
  number := i.number
  text := i.text
  keyPair := i.keyPair

namespace Interface.Builder

theorem parseLine_lineOf (hname : IsName P name) (hvalue : ∀ c ∈ value, Inline P c) :
    b.parseLine (trim (lineOf name value)) = b.setAttribute ⟨name, strip P.space value⟩ := by
  rw [parseLine, parse_lineOf hname hvalue]

theorem parseLine_addresses (hempty : b.addresses = .empty) {networks : LinkedHashSet (InetNetwork P)}
    (hne : networks.isEmpty = false) :
    b.parseLine (trim (lineOf "Address".toList
      (Attribute.join (networks.elements.map InetNetwork.toString)))) = .ok { b with addresses := networks } := by
  have hname : IsName P "Address".toList := isName (by decide) (by decide)
  rw [parseLine_lineOf hname (inline_join_networks networks), setAttribute, lower_name hname]
  show b.parseAddresses _ = _
  rw [parseAddresses, hempty, addNetworks_join _ _ hne]
  rfl

theorem addDns_servers (servers : List P.Address) (rest : List (List Char)) :
    b.addDns (servers.map P.getHostAddress ++ rest) =
      { b with dnsServers := b.dnsServers.addAll servers }.addDns rest := by
  induction servers generalizing b with
  | nil => rfl
  | cons server servers ih =>
      rw [List.map_cons, List.cons_append, addDns, parse_hostAddress]
      exact ih

theorem addDns_domains {domains : List (List Char)}
    (h : ∀ d ∈ domains, InetAddresses.isHostname d = true ∧
      InetAddresses.parse P d = .error ⟨.inetAddress, d⟩) :
    b.addDns domains = .ok { b with dnsSearchDomains := b.dnsSearchDomains.addAll domains } := by
  induction domains generalizing b with
  | nil => rfl
  | cons domain domains ih =>
      obtain ⟨⟨hhost, herror⟩, hrest⟩ := List.forall_mem_cons.mp h
      rw [addDns, herror]
      simp only
      rw [if_neg (by simp [hhost])]
      exact ih hrest

theorem parseLine_dns (hservers : b.dnsServers = .empty) (hdomains : b.dnsSearchDomains = .empty)
    {servers : LinkedHashSet P.Address} {domains : LinkedHashSet (List Char)} (hne : servers.isEmpty = false)
    (h : ∀ d ∈ domains.elements, InetAddresses.isHostname d = true ∧
      InetAddresses.parse P d = .error ⟨.inetAddress, d⟩) :
    b.parseLine (trim (lineOf "DNS".toList
      (Attribute.join (servers.elements.map P.getHostAddress ++ domains.elements)))) =
        .ok { b with dnsServers := servers, dnsSearchDomains := domains } := by
  have hname : IsName P "DNS".toList := isName (by decide) (by decide)
  have hfields : ∀ text ∈ servers.elements.map P.getHostAddress ++ domains.elements,
      IsField P text ∧ text ≠ [] := by
    intro text htext
    rcases List.mem_append.mp htext with htext | htext
    · obtain ⟨address, -, rfl⟩ := List.mem_map.mp htext
      exact ⟨isField_hostAddress address, P.hostAddress_ne_nil address⟩
    · have hhost := (h text htext).1
      exact ⟨isField_hostname hhost, hostname_ne_nil hhost⟩
  have htexts : servers.elements.map P.getHostAddress ++ domains.elements ≠ [] := by
    rw [LinkedHashSet.isEmpty, List.isEmpty_eq_false_iff] at hne
    exact List.append_ne_nil_of_left_ne_nil (by simpa using hne) _
  rw [parseLine_lineOf hname (inline_join fun text ht => (hfields text ht).1), setAttribute, lower_name hname]
  show b.parseDnsServers _ = _
  rw [parseDnsServers, split_join htexts fun text ht => (hfields text ht).1,
    kept_of_ne_nil fun text ht => (hfields text ht).2, addDns_servers, addDns_domains h]
  simp only [hservers, hdomains, LinkedHashSet.addAll_elements]

theorem addAll_split {apps : LinkedHashSet (List Char)} (hne : apps.isEmpty = false)
    (h : ∀ app ∈ apps.elements, IsField P app) :
    LinkedHashSet.empty.addAll (Attribute.split P (strip P.space (Attribute.join apps.elements))) =
      keptSet apps := by
  rw [LinkedHashSet.isEmpty, List.isEmpty_eq_false_iff] at hne
  rw [split_join hne h]
  exact LinkedHashSet.addAll_elements (keptSet apps)

theorem parseLine_excludedApplications (hempty : b.excludedApplications = .empty)
    {apps : LinkedHashSet (List Char)} (hne : apps.isEmpty = false) (h : ∀ app ∈ apps.elements, IsField P app) :
    b.parseLine (trim (lineOf "ExcludedApplications".toList (Attribute.join apps.elements))) =
      .ok { b with excludedApplications := keptSet apps } := by
  have hname : IsName P "ExcludedApplications".toList := isName (by decide) (by decide)
  rw [parseLine_lineOf hname (inline_join h), setAttribute, lower_name hname]
  show Except.ok (b.parseExcludedApplications _) = _
  rw [parseExcludedApplications, hempty, addAll_split hne h]

theorem parseLine_includedApplications (hempty : b.includedApplications = .empty)
    {apps : LinkedHashSet (List Char)} (hne : apps.isEmpty = false) (h : ∀ app ∈ apps.elements, IsField P app) :
    b.parseLine (trim (lineOf "IncludedApplications".toList (Attribute.join apps.elements))) =
      .ok { b with includedApplications := keptSet apps } := by
  have hname : IsName P "IncludedApplications".toList := isName (by decide) (by decide)
  rw [parseLine_lineOf hname (inline_join h), setAttribute, lower_name hname]
  show Except.ok (b.parseIncludedApplications _) = _
  rw [parseIncludedApplications, hempty, addAll_split hne h]

theorem parseLine_number (a : NumberAttribute) (n : Bounded a.max) :
    b.parseLine (trim (lineOf a.name (decimal n))) =
      .ok { b with number := Function.update b.number a (some n) } := by
  have hname : IsName P a.name := isName (by cases a <;> decide) (by cases a <;> decide)
  have hset : ∀ value, b.setAttribute ⟨a.name, value⟩ = b.parseNumber a value := by
    intro value
    rw [setAttribute, lower_name hname]
    cases a <;> rfl
  have hmax : a.max < 2147483648 := by cases a <;> decide
  rw [parseLine_lineOf hname (inline_decimal n), hset, parseNumber, parseBounded_decimal _ _ hmax]
  rfl

theorem parseLine_text (a : TextAttribute) {text : List Char} (h : IsText P text) :
    b.parseLine (trim (lineOf a.name text)) =
      .ok { b with text := Function.update b.text a (some text) } := by
  have hname : IsName P a.name := isName (by cases a <;> decide) (by cases a <;> decide)
  have hset : ∀ value, b.setAttribute ⟨a.name, value⟩ = .ok (b.parseText a value) := by
    intro value
    rw [setAttribute, lower_name hname]
    cases a <;> rfl
  have htrim : trim text = text := h.trimmed
  rw [parseLine_lineOf hname h.inline, hset, strip_space_eq h.inline, parseText, htrim, htrim,
    if_neg (by simpa using h.ne_nil)]

theorem parseLine_privateKey (key : Key) :
    b.parseLine (trim (lineOf "PrivateKey".toList (keyText key))) = .ok { b with keyPair := some key } := by
  have hname : IsName P "PrivateKey".toList := isName (by decide) (by decide)
  have hfield := isField_keyText (P := P) key
  rw [parseLine_lineOf hname hfield.inline, hfield.stripped, setAttribute, lower_name hname]
  show b.parsePrivateKey (keyText key) = _
  rw [parsePrivateKey, parseKey_keyText]
  rfl

/-- The lines of some attributes with a number set these and leave the others. -/
theorem foldlM_numbers (number : (a : NumberAttribute) → Option (Bounded a.max)) {attributes : List NumberAttribute}
    (hunset : ∀ a ∈ attributes, b.number a = none) (hnodup : attributes.Nodup) :
    ((attributes.flatMap fun a => (number a).toList.map fun n => lineOf a.name (decimal n.val)).map trim).foldlM
      parseLine b = .ok { b with number := fun a => if a ∈ attributes then number a else b.number a } := by
  induction attributes generalizing b with
  | nil =>
      simp only [List.not_mem_nil, if_false]
      rfl
  | cons a attributes ih =>
      obtain ⟨ha, hrest⟩ := List.nodup_cons.mp hnodup
      have hfirst : (((number a).toList.map fun n => lineOf a.name (decimal n.val)).map trim).foldlM parseLine b =
          .ok { b with number := Function.update b.number a (number a) } := by
        rw [List.map_map]
        refine foldlM_option (fun h => ?_) fun n hn => ?_
        · rw [h, ← hunset a List.mem_cons_self, Function.update_eq_self]
        · rw [hn]
          exact parseLine_number a n
      rw [List.flatMap_cons, List.map_append, foldlM_append_ok hfirst, ih]
      · exact congrArg (fun f => Except.ok { b with number := f }) (ite_mem_update number b.number)
      · intro other hother
        have hne : other ≠ a := fun h => ha (h ▸ hother)
        simp only [Function.update_of_ne hne]
        exact hunset other (List.mem_cons_of_mem a hother)
      · exact hrest

theorem foldlM_texts {text : TextAttribute → Option (List Char)} (htext : ∀ a t, text a = some t → IsText P t)
    {attributes : List TextAttribute} (hunset : ∀ a ∈ attributes, b.text a = none) (hnodup : attributes.Nodup) :
    ((attributes.flatMap fun a => (text a).toList.map fun t => lineOf a.name t).map trim).foldlM
      parseLine b = .ok { b with text := fun a => if a ∈ attributes then text a else b.text a } := by
  induction attributes generalizing b with
  | nil =>
      simp only [List.not_mem_nil, if_false]
      rfl
  | cons a attributes ih =>
      obtain ⟨ha, hrest⟩ := List.nodup_cons.mp hnodup
      have hfirst : (((text a).toList.map fun t => lineOf a.name t).map trim).foldlM parseLine b =
          .ok { b with text := Function.update b.text a (text a) } := by
        rw [List.map_map]
        refine foldlM_option (fun h => ?_) fun t ht => ?_
        · rw [h, ← hunset a List.mem_cons_self, Function.update_eq_self]
        · rw [ht]
          exact parseLine_text a (htext a t ht)
      rw [List.flatMap_cons, List.map_append, foldlM_append_ok hfirst, ih]
      · exact congrArg (fun f => Except.ok { b with text := f }) (ite_mem_update text b.text)
      · intro other hother
        have hne : other ≠ a := fun h => ha (h ▸ hother)
        simp only [Function.update_of_ne hne]
        exact hunset other (List.mem_cons_of_mem a hother)
      · exact hrest

end Interface.Builder

theorem NumberAttribute.mem_all (a : NumberAttribute) : a ∈ all := by cases a <;> decide

theorem TextAttribute.mem_all (a : TextAttribute) : a ∈ all := by cases a <;> decide

theorem keptSet_of_isEmpty {apps : LinkedHashSet (List Char)} (h : apps.isEmpty = true) :
    keptSet apps = .empty := by
  rw [LinkedHashSet.eq_empty h]
  rfl

theorem Interface.foldlM_quickLines {i : Interface P} (hi : i.toInterfaceFields.Ok) :
    (i.quickLines.map trim).foldlM Builder.parseLine (Builder.initial : Builder P) =
      .ok { i.kept.toInterfaceFields with keyPair := some i.keyPair } := by
  let b1 : Builder P := { (Builder.initial : Builder P) with addresses := i.addresses }
  let b2 : Builder P := { b1 with
    dnsServers := i.dnsServers
    dnsSearchDomains := if i.dnsServers.isEmpty then .empty else i.dnsSearchDomains }
  let b3 : Builder P := { b2 with excludedApplications := keptSet i.excludedApplications }
  let b4 : Builder P := { b3 with includedApplications := keptSet i.includedApplications }
  let b5 : Builder P := { b4 with number := i.number }
  let b6 : Builder P := { b5 with text := i.text }
  have h1 : (if i.addresses.isEmpty then [] else [trim (lineOf "Address".toList
      (Attribute.join (i.addresses.elements.map InetNetwork.toString)))]).foldlM Builder.parseLine
        Builder.initial = .ok b1 := by
    refine foldlM_unless (fun h => ?_) fun h => Builder.parseLine_addresses rfl h
    simp only [b1, LinkedHashSet.eq_empty h]
    rfl
  have h2 : (if i.dnsServers.isEmpty then [] else [trim (lineOf "DNS".toList
      (Attribute.join (i.dnsServers.elements.map P.getHostAddress ++ i.dnsSearchDomains.elements)))]).foldlM
        Builder.parseLine b1 = .ok b2 := by
    refine foldlM_unless (fun h => ?_) fun h => ?_
    · simp only [b2, LinkedHashSet.eq_empty h]
      rfl
    · simp only [b2, h, if_neg Bool.false_ne_true]
      exact Builder.parseLine_dns rfl rfl h hi.dnsSearchDomains
  have h3 : (if i.excludedApplications.isEmpty then [] else [trim (lineOf "ExcludedApplications".toList
      (Attribute.join i.excludedApplications.elements))]).foldlM Builder.parseLine b2 = .ok b3 := by
    refine foldlM_unless (fun h => ?_) fun h =>
      Builder.parseLine_excludedApplications rfl h hi.excludedApplications
    simp only [b3, keptSet_of_isEmpty h]
    rfl
  have h4 : (if i.includedApplications.isEmpty then [] else [trim (lineOf "IncludedApplications".toList
      (Attribute.join i.includedApplications.elements))]).foldlM Builder.parseLine b3 = .ok b4 := by
    refine foldlM_unless (fun h => ?_) fun h =>
      Builder.parseLine_includedApplications rfl h hi.includedApplications
    simp only [b4, keptSet_of_isEmpty h]
    rfl
  have h5 : ((NumberAttribute.all.flatMap fun a =>
      (i.number a).toList.map fun n => lineOf a.name (decimal n.val)).map trim).foldlM Builder.parseLine b4 =
        .ok b5 := by
    rw [Builder.foldlM_numbers i.number (fun _ _ => rfl) (by decide)]
    simp only [NumberAttribute.mem_all, if_true]
    rfl
  have h6 : ((TextAttribute.all.flatMap fun a =>
      (i.text a).toList.map fun text => lineOf a.name text).map trim).foldlM Builder.parseLine b5 = .ok b6 := by
    rw [Builder.foldlM_texts hi.text (fun _ _ => rfl) (by decide)]
    simp only [TextAttribute.mem_all, if_true]
    rfl
  simp only [quickLines, List.map_append, List.append_assoc, apply_ite (List.map trim), List.map_nil,
    List.map_singleton]
  rw [foldlM_append_ok h1, foldlM_append_ok h2, foldlM_append_ok h3, foldlM_append_ok h4, foldlM_append_ok h5,
    foldlM_append_ok h6, foldlM_cons_ok (Builder.parseLine_privateKey i.keyPair)]
  rfl

theorem Interface.build_kept {i : Interface P} (hi : i.Ok) :
    Builder.build { i.kept.toInterfaceFields with keyPair := some i.keyPair } = .ok i.kept := by
  have hcheck : ¬ (!(keptSet i.includedApplications).isEmpty &&
      !(keptSet i.excludedApplications).isEmpty) = true := by
    rcases hi.applications with h | h
    · rw [keptSet_of_isEmpty h]
      exact Bool.false_ne_true
    · rw [keptSet_of_isEmpty h, Bool.and_comm]
      exact Bool.false_ne_true
  exact if_neg hcheck

/-- **A printed interface.** -/
theorem Interface.parse_quickLines {i : Interface P} (hi : i.Ok) :
    Interface.parse P (i.quickLines.map trim) = .ok i.kept := by
  rw [Interface.parse, foldlM_quickLines hi.fields]
  exact build_kept hi

end Interfaces

section Configs

open Config

/-- What is left of a config once it was printed and read again. -/
def Config.kept (c : Config P) : Config P := ⟨c.interfaze.kept, c.peers⟩

def IsAttributeLine (P : Platform) (line : List Char) : Prop :=
  ∃ name value, IsName P name ∧ (∀ c ∈ value, Inline P c) ∧ line = lineOf name value

theorem IsName.ne {name : List Char} (h : IsName P name) {c d : Char} (hc : c ∈ name) (hvisible : Visible d)
    (hd : ¬ (d.isAlphanum = true ∨ d = '_')) : c ≠ d := by
  rintro rfl
  exact hd ((P.word_iff c hvisible).mp (h.word c hc))

theorem IsAttributeLine.inline {line : List Char} (h : IsAttributeLine P line) : ∀ c ∈ line, Inline P c := by
  obtain ⟨name, value, hname, hvalue, rfl⟩ := h
  intro c hc
  rw [lineOf, List.mem_append, List.mem_append] at hc
  rcases hc with hc | hc | hc
  · exact (hname.visible c hc).inline (hname.ne hc (by decide) (by decide))
  · have hmark : c = ' ' ∨ c = '=' ∨ c = ' ' := by simpa using hc
    rcases hmark with rfl | rfl | rfl
    · exact inline_blank
    · exact Visible.inline (by decide) (by decide)
    · exact inline_blank
  · exact hvalue c hc

theorem Peer.isAttributeLine {p : Peer P} (hp : p.Ok) : ∀ line ∈ p.quickLines, IsAttributeLine P line := by
  intro line hline
  simp only [quickLines, List.mem_append, List.mem_map, Option.mem_toList, List.mem_singleton] at hline
  rcases hline with (((hline | ⟨e, he, rfl⟩) | ⟨n, -, rfl⟩) | ⟨key, -, rfl⟩) | rfl
  · split at hline
    next => cases hline
    next =>
      rw [List.mem_singleton.mp hline]
      exact ⟨_, _, isName (by decide) (by decide), inline_join_networks _, rfl⟩
  · exact ⟨_, _, isName (by decide) (by decide), (hp e he).isField.inline, rfl⟩
  · exact ⟨_, _, isName (by decide) (by decide), inline_decimal _, rfl⟩
  · exact ⟨_, _, isName (by decide) (by decide), (isField_keyText key).inline, rfl⟩
  · exact ⟨_, _, isName (by decide) (by decide), (isField_keyText _).inline, rfl⟩

theorem Interface.isAttributeLine {i : Interface P} (hi : i.toInterfaceFields.Ok) :
    ∀ line ∈ i.quickLines, IsAttributeLine P line := by
  intro line hline
  simp only [quickLines, List.mem_append, List.mem_flatMap, List.mem_map, Option.mem_toList,
    List.mem_singleton] at hline
  rcases hline with
    (((((hline | hline) | hline) | hline) | ⟨a, -, n, -, rfl⟩) | ⟨a, -, text, htext, rfl⟩) | rfl
  · split at hline
    next => cases hline
    next =>
      rw [List.mem_singleton.mp hline]
      exact ⟨_, _, isName (by decide) (by decide), inline_join_networks _, rfl⟩
  · split at hline
    next => cases hline
    next =>
      rw [List.mem_singleton.mp hline]
      refine ⟨_, _, isName (by decide) (by decide), inline_join fun text htext => ?_, rfl⟩
      rcases List.mem_append.mp htext with htext | htext
      · obtain ⟨address, -, rfl⟩ := List.mem_map.mp htext
        exact isField_hostAddress address
      · exact isField_hostname (hi.dnsSearchDomains text htext).1
  · split at hline
    next => cases hline
    next =>
      rw [List.mem_singleton.mp hline]
      exact ⟨_, _, isName (by decide) (by decide), inline_join hi.excludedApplications, rfl⟩
  · split at hline
    next => cases hline
    next =>
      rw [List.mem_singleton.mp hline]
      exact ⟨_, _, isName (by decide) (by decide), inline_join hi.includedApplications, rfl⟩
  · exact ⟨_, _, isName (by cases a <;> decide) (by cases a <;> decide), inline_decimal _, rfl⟩
  · exact ⟨_, _, isName (by cases a <;> decide) (by cases a <;> decide), (hi.text a text htext).inline, rfl⟩
  · exact ⟨_, _, isName (by decide) (by decide), (isField_keyText _).inline, rfl⟩

/-- The first character of a line tells that it starts no section. -/
theorem IsAttributeLine.readLine {line : List Char} (h : IsAttributeLine P line) (s : ParseState P) :
    s.readLine (trim line) =
      if s.inInterfaceSection then .ok { s with interfaceLines := s.interfaceLines ++ [trim line] }
      else if s.inPeerSection then .ok { s with peerLines := s.peerLines ++ [trim line] }
      else .error ⟨.config, .topLevel, .unknownSection, some (trim line)⟩ := by
  obtain ⟨name, value, hname, hvalue, rfl⟩ := h
  obtain ⟨c, rest, hcons⟩ := List.exists_cons_of_ne_nil hname.ne_nil
  have htrim : trim (lineOf name value) = c :: (rest ++ ' ' :: '=' :: (' ' :: value).rdropWhile blank) := by
    rw [trim_lineOf hname, hcons]
    rfl
  rw [ParseState.readLine]
  · rw [htrim]
    exact List.cons_ne_nil _ _
  · intro tail htail
    rw [htrim, List.cons.injEq] at htail
    exact hname.ne (by rw [hcons]; exact List.mem_cons_self) (by decide) (by decide) htail.1

theorem readLine_interfaceLines {lines : List (List Char)} (h : ∀ line ∈ lines, IsAttributeLine P line)
    {s : ParseState P} (hs : s.inInterfaceSection = true) :
    (lines.map trim).foldlM ParseState.readLine s =
      .ok { s with interfaceLines := s.interfaceLines ++ lines.map trim } := by
  induction lines generalizing s with
  | nil =>
      rw [List.map_nil, List.append_nil]
      rfl
  | cons line lines ih =>
      obtain ⟨hline, hlines⟩ := List.forall_mem_cons.mp h
      have hread := hline.readLine s
      rw [if_pos hs] at hread
      rw [List.map_cons, foldlM_cons_ok hread, ih hlines (by exact hs), List.append_assoc, List.singleton_append]

theorem readLine_peerLines {lines : List (List Char)} (h : ∀ line ∈ lines, IsAttributeLine P line)
    {s : ParseState P} (hother : s.inInterfaceSection = false) (hs : s.inPeerSection = true) :
    (lines.map trim).foldlM ParseState.readLine s =
      .ok { s with peerLines := s.peerLines ++ lines.map trim } := by
  induction lines generalizing s with
  | nil =>
      rw [List.map_nil, List.append_nil]
      rfl
  | cons line lines ih =>
      obtain ⟨hline, hlines⟩ := List.forall_mem_cons.mp h
      have hread := hline.readLine s
      rw [if_neg (by rw [hother]; exact Bool.false_ne_true), if_pos hs] at hread
      rw [List.map_cons, foldlM_cons_ok hread, ih hlines (by exact hother) (by exact hs), List.append_assoc,
        List.singleton_append]

theorem equalsIgnoreCase_self (cs : List Char) : equalsIgnoreCase P cs cs = true := by
  rw [equalsIgnoreCase, beq_self_eq_true, Bool.true_and]
  induction cs with
  | nil => rfl
  | cons c cs ih => rw [List.zip_cons_cons, List.all_cons, P.sameLetter_self, ih, Bool.and_true]

/-- What a state comes to once its section is closed. -/
def Config.ParseState.Closes (s : ParseState P) (interfaceLines : List (List Char)) (peers : List (Peer P)) : Prop :=
  ∃ t : ParseState P, s.closeSection = .ok t ∧ t.interfaceLines = interfaceLines ∧ t.peers = peers ∧
    t.peerLines = [] ∧ t.seenInterfaceSection = true

variable {s : ParseState P} {interfaceLines : List (List Char)} {peers : List (Peer P)}

theorem closes_peer (hs : s.Closes interfaceLines peers) {p : Peer P} (hp : p.Ok) :
    ∃ s', ([] :: "[Peer]".toList :: p.quickLines.map trim).foldlM ParseState.readLine s = .ok s' ∧
      s'.Closes interfaceLines (peers ++ [p]) := by
  obtain ⟨t, hclose, hinterface, hpeers, hlines, hseen⟩ := hs
  let opened : ParseState P := { t with inInterfaceSection := false, inPeerSection := true }
  have hblank : s.readLine [] = .ok s := rfl
  have hopen : s.readLine "[Peer]".toList = .ok opened := by
    show s.openSection "[Peer]".toList = _
    have hother : equalsIgnoreCase P "[Interface]".toList "[Peer]".toList = false := rfl
    have hself := equalsIgnoreCase_self (P := P) "[Peer]".toList
    rw [ParseState.openSection, hclose]
    simp only [bind, Except.bind, hother, hself]
    rfl
  refine ⟨{ opened with peerLines := p.quickLines.map trim }, ?_, ?_⟩
  · rw [foldlM_cons_ok hblank, foldlM_cons_ok hopen, readLine_peerLines (Peer.isAttributeLine hp) rfl rfl]
    simp only [opened, hlines, List.nil_append]
  · refine ⟨{ opened with peers := peers ++ [p], peerLines := [] }, ?_, hinterface, rfl, rfl, hseen⟩
    rw [ParseState.closeSection, if_pos rfl, ParseState.parsePeer]
    simp only
    rw [Peer.parse_quickLines hp, ← hpeers]
    rfl

theorem closes_peers (hs : s.Closes interfaceLines peers) {more : List (Peer P)} (hmore : ∀ p ∈ more, p.Ok) :
    ∃ s', (more.flatMap fun p => [] :: "[Peer]".toList :: p.quickLines.map trim).foldlM
      ParseState.readLine s = .ok s' ∧ s'.Closes interfaceLines (peers ++ more) := by
  induction more generalizing s peers with
  | nil => exact ⟨s, rfl, by rwa [List.append_nil]⟩
  | cons p more ih =>
      obtain ⟨hp, hmore⟩ := List.forall_mem_cons.mp hmore
      obtain ⟨s', hread, hs'⟩ := closes_peer hs hp
      obtain ⟨s'', hreads, hs''⟩ := ih hs' hmore
      refine ⟨s'', ?_, by rwa [List.append_assoc, List.singleton_append] at hs''⟩
      rw [List.flatMap_cons, foldlM_append_ok hread, hreads]

theorem closes_interface {i : Interface P} (hi : i.toInterfaceFields.Ok) :
    ∃ s', ("[Interface]".toList :: i.quickLines.map trim).foldlM ParseState.readLine
      (ParseState.initial : ParseState P) = .ok s' ∧ s'.Closes (i.quickLines.map trim) [] := by
  let opened : ParseState P :=
    { (ParseState.initial : ParseState P) with inInterfaceSection := true, seenInterfaceSection := true }
  have hopen : (ParseState.initial : ParseState P).readLine "[Interface]".toList = .ok opened := by
    show (ParseState.initial : ParseState P).openSection "[Interface]".toList = _
    have hself := equalsIgnoreCase_self (P := P) "[Interface]".toList
    rw [ParseState.openSection, hself]
    rfl
  refine ⟨{ opened with interfaceLines := i.quickLines.map trim }, ?_, ?_⟩
  · rw [foldlM_cons_ok hopen, readLine_interfaceLines (Interface.isAttributeLine hi) rfl]
    rfl
  · exact ⟨_, rfl, rfl, rfl, rfl, rfl⟩

theorem finish_of_closes (hs : s.Closes interfaceLines peers) {i : Interface P}
    (hi : Interface.parse P interfaceLines = .ok i) : s.finish = .ok ⟨i, peers⟩ := by
  obtain ⟨t, hclose, hinterface, hpeers, -, hseen⟩ := hs
  rw [ParseState.finish, hclose]
  simp only [bind, Except.bind, hseen, hinterface, hi, hpeers]
  rfl

theorem Config.inline_quickLines {c : Config P} (hc : c.Ok) :
    ∀ line ∈ c.quickLines, ∀ d ∈ line, Inline P d := by
  have hheader : ∀ header : List Char, (header.all fun d => decide (Visible d ∧ d ≠ '#')) = true →
      ∀ d ∈ header, Inline P d := by
    intro header h d hd
    have hchar := of_decide_eq_true (List.all_eq_true.mp h d hd)
    exact hchar.1.inline hchar.2
  intro line hline
  rw [quickLines, List.mem_append, List.mem_cons, List.mem_flatMap] at hline
  rcases hline with (rfl | hline) | ⟨p, hp, hline⟩
  · exact hheader _ (by decide)
  · exact (Interface.isAttributeLine hc.interfaze.fields line hline).inline
  · simp only [List.mem_cons] at hline
    rcases hline with rfl | rfl | hline
    · exact List.forall_mem_nil _
    · exact hheader _ (by decide)
    · exact (Peer.isAttributeLine (hc.peers p hp) line hline).inline

theorem stripLine_of_inline {line : List Char} (h : ∀ c ∈ line, Inline P c) :
    ParseState.stripLine line = trim line := by
  rw [ParseState.stripLine, List.takeWhile_eq_self_iff.mpr]
  intro c hc
  simpa using (h c hc).comment

theorem stripLine_toAwgQuickString {c : Config P} (hc : c.Ok) :
    (linesOfChars [] c.toAwgQuickString).map ParseState.stripLine = c.quickLines.map trim := by
  have hinline := inline_quickLines hc
  have hjoin : c.toAwgQuickString = joinLines (c.quickLines.map fun line => (line, LineEnd.lf)) [] := by
    rw [joinLines, List.flatMap_map, List.append_nil]
    rfl
  have hsplit : linesOfChars [] c.toAwgQuickString = c.quickLines := by
    rw [hjoin, linesOfChars_joinLines]
    · simp [Function.comp_def]
    · intro line hline d hd
      obtain ⟨whole, hwhole, rfl⟩ := List.mem_map.mp hline
      exact (hinline whole hwhole d hd).unbroken
    · exact List.forall_mem_nil _
  rw [hsplit]
  exact List.map_congr_left fun line hline => stripLine_of_inline (hinline line hline)

theorem map_trim_quickLines (c : Config P) :
    c.quickLines.map trim = "[Interface]".toList :: c.interfaze.quickLines.map trim ++
      c.peers.flatMap fun p => [] :: "[Peer]".toList :: p.quickLines.map trim := by
  have hinterface : trim "[Interface]".toList = "[Interface]".toList := by decide
  have hpeer : trim "[Peer]".toList = "[Peer]".toList := by decide
  have hnil : trim [] = [] := rfl
  rw [quickLines, List.map_append, List.map_cons, List.map_flatMap, hinterface]
  simp only [List.map_cons, hpeer, hnil]

/-- **A printed config.** -/
theorem Config.parse_print {c : Config P} (hc : c.Ok) : Config.parse P c.toAwgQuickString = .ok c.kept := by
  obtain ⟨s, hread, hs⟩ := closes_interface hc.interfaze.fields
  obtain ⟨t, hreads, ht⟩ := closes_peers hs hc.peers
  rw [Config.parse, stripLine_toAwgQuickString hc, map_trim_quickLines, foldlM_append_ok hread, hreads]
  exact finish_of_closes ht (Interface.parse_quickLines hc.interfaze)

/-! ### What is lost -/

/-- No search domain stands without a server, and no application without a name stands last after others. -/
structure Config.Complete (c : Config P) : Prop where
  dns : c.interfaze.dnsServers.isEmpty = true → c.interfaze.dnsSearchDomains.isEmpty = true
  excluded : 2 ≤ c.interfaze.excludedApplications.elements.length →
    c.interfaze.excludedApplications.elements.getLast? ≠ some []
  included : 2 ≤ c.interfaze.includedApplications.elements.length →
    c.interfaze.includedApplications.elements.getLast? ≠ some []

theorem keptSet_eq_self_iff (apps : LinkedHashSet (List Char)) :
    keptSet apps = apps ↔ (2 ≤ apps.elements.length → apps.elements.getLast? ≠ some []) := by
  rw [← kept_eq_self_iff]
  constructor
  · intro h
    exact congrArg LinkedHashSet.elements h
  · intro h
    exact LinkedHashSet.ext h

theorem Config.kept_eq_self_iff (c : Config P) : c.kept = c ↔ c.Complete := by
  obtain ⟨interfaze, peers⟩ := c
  constructor
  · intro h
    have hinterface : interfaze.kept = interfaze := congrArg Config.interfaze h
    have hdns := congrArg (fun i : Interface P => i.dnsSearchDomains) hinterface
    have hexcluded := congrArg (fun i : Interface P => i.excludedApplications) hinterface
    have hincluded := congrArg (fun i : Interface P => i.includedApplications) hinterface
    refine ⟨fun hempty => ?_, (keptSet_eq_self_iff _).mp hexcluded, (keptSet_eq_self_iff _).mp hincluded⟩
    have hnone : (if interfaze.dnsServers.isEmpty = true then .empty else interfaze.dnsSearchDomains) =
        interfaze.dnsSearchDomains := hdns
    rw [if_pos hempty] at hnone
    show interfaze.dnsSearchDomains.isEmpty = true
    rw [← hnone]
    rfl
  · rintro ⟨hdns, hexcluded, hincluded⟩
    have hdomains : (if interfaze.dnsServers.isEmpty = true then .empty else interfaze.dnsSearchDomains) =
        interfaze.dnsSearchDomains := by
      split
      next h => exact (LinkedHashSet.eq_empty (hdns h)).symm
      next => rfl
    have hinterface : interfaze.kept = interfaze := by
      rw [Interface.kept, hdomains, (keptSet_eq_self_iff _).mpr hexcluded, (keptSet_eq_self_iff _).mpr hincluded]
    rw [Config.kept, hinterface]

theorem Config.kept_kept (c : Config P) : c.kept.kept = c.kept := by
  have hset : ∀ apps, keptSet (keptSet apps) = keptSet apps := fun apps => LinkedHashSet.ext (Text.kept_kept _)
  simp only [Config.kept, Interface.kept, hset]
  split <;> rfl

theorem Config.Ok.kept {c : Config P} (hc : c.Ok) : c.kept.Ok := by
  have hsub : ∀ {apps : LinkedHashSet (List Char)}, (∀ app ∈ apps.elements, IsField P app) →
      ∀ app ∈ (keptSet apps).elements, IsField P app :=
    fun happs app happ => happs app ((kept_isPrefix _).mem happ)
  refine ⟨⟨⟨?_, hsub hc.interfaze.fields.excludedApplications, hsub hc.interfaze.fields.includedApplications,
    hc.interfaze.fields.text⟩, ?_⟩, hc.peers⟩
  · intro d hd
    have hd' : d ∈ (if c.interfaze.dnsServers.isEmpty = true then .empty
        else c.interfaze.dnsSearchDomains).elements := hd
    split at hd'
    next => cases hd'
    next => exact hc.interfaze.fields.dnsSearchDomains d hd'
  · rcases hc.interfaze.applications with h | h
    · left
      show (keptSet c.interfaze.includedApplications).isEmpty = true
      rw [keptSet_of_isEmpty h]
      rfl
    · right
      show (keptSet c.interfaze.excludedApplications).isEmpty = true
      rw [keptSet_of_isEmpty h]
      rfl

/-- **Reading, printing, reading.** In a text without unusual blanks, the config that was read is printed to a text
that is read as the config again, but for the two losses; nothing is lost exactly if the config is complete, and
what was printed once is read unchanged from then on. -/
theorem Config.read_print_read {text : List Char} {c : Config P} (htext : ∀ d ∈ text, P.space d = blank d)
    (h : Config.parse P text = .ok c) :
    Config.parse P c.toAwgQuickString = .ok c.kept ∧ (c.kept = c ↔ c.Complete) ∧
      Config.parse P c.kept.toAwgQuickString = .ok c.kept := by
  have hc := Config.ok_of_parse htext h
  refine ⟨parse_print hc, kept_eq_self_iff c, ?_⟩
  have hagain := parse_print hc.kept
  rwa [kept_kept] at hagain

/-- A text with comments, two interface sections, a search domain without a server and an application without a
name. -/
def sampleText : List Char :=
  ["# phone", "[Interface]", "PrivateKey = AAAAAAAAAAAAAAAAAAAAAAAAAAAAAAAAAAAAAAAAAAA=", "Address = 10.8.1.2/32",
    "DNS = corp.example", "Jc = 4", "[Peer]", "publickey = BAAAAAAAAAAAAAAAAAAAAAAAAAAAAAAAAAAAAAAAAAA=",
    "Endpoint = vpn.example.org:51820", "AllowedIPs = 0.0.0.0/0,10.0.0.1", "[interface]",
    "ExcludedApplications = a.b # tv", "ExcludedApplications ="].flatMap fun line => line.toList ++ ['\n']

theorem sampleText_spaces : ∀ d ∈ sampleText, ascii.space d = blank d :=
  fun d hd => of_decide_eq_true (List.all_eq_true.mp
    (by decide +kernel : (sampleText.all fun d => decide (ascii.space d = blank d)) = true) d hd)

theorem sampleText_isOk : (Config.parse ascii sampleText).toOption.isSome = true := by decide +kernel

theorem Config.sample_read_print_read : ∃ c, Config.parse ascii sampleText = .ok c ∧
    Config.parse ascii c.toAwgQuickString = .ok c.kept := by
  cases h : Config.parse ascii sampleText with
  | error e =>
      have hok := sampleText_isOk
      rw [h] at hok
      cases hok
  | ok c => exact ⟨c, rfl, (Config.read_print_read sampleText_spaces h).1⟩

end Configs

end Awg
