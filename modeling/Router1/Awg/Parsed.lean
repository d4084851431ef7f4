import Router1.Awg.Config
import Router1.Java.Exceptions

/-!
# What is known of a config that was read

Numbers are within their bounds and no set holds an element twice because of their types. What the types do not
say is collected here. Whatever stands in the text, an endpoint was read from a text, and a text of the interface
has no line end. If there are no unusual blanks in the text, search domains are host names that are no addresses,
names of applications are fields of a line, and texts are not empty and have no blanks around them.
-/

namespace Awg

open Dart Text Java

variable {P : Platform}

/-- A character of a line from which comments were removed, in a text without unusual blanks. -/
structure LineChar (P : Platform) (c : Char) : Prop where
  comment : c ≠ '#'
  unbroken : isBreak c = false
  blank : P.space c = blank c

theorem LineChar.inline {c : Char} (h : LineChar P c) (hdot : P.dot c = true) : Inline P c :=
  ⟨h.comment, h.unbroken, hdot, h.blank⟩

def Peer.Ok (p : Peer P) : Prop := ∀ e, p.endpoint = some e → e.Ok P

def Peer.Builder.Ok (b : Peer.Builder P) : Prop := ∀ e, b.endpoint = some e → e.Ok P

structure IsText (P : Platform) (text : List Char) : Prop where
  ne_nil : text ≠ []
  trimmed : Stripped blank text
  inline : ∀ c ∈ text, Inline P c

structure InterfaceFields.Ok (i : InterfaceFields P) : Prop where
  dnsSearchDomains : ∀ d ∈ i.dnsSearchDomains.elements, InetAddresses.isHostname d = true ∧
    InetAddresses.parse P d = .error ⟨.inetAddress, d⟩
  excludedApplications : ∀ app ∈ i.excludedApplications.elements, IsField P app
  includedApplications : ∀ app ∈ i.includedApplications.elements, IsField P app
  text : ∀ a text, i.text a = some text → IsText P text

structure Interface.Ok (i : Interface P) : Prop where
  fields : i.toInterfaceFields.Ok
  /-- The check of `build`. -/
  applications : i.includedApplications.isEmpty = true ∨ i.excludedApplications.isEmpty = true

structure Config.Ok (c : Config P) : Prop where
  interfaze : c.interfaze.Ok
  peers : ∀ p ∈ c.peers, p.Ok

/-- The texts of an interface have no line ends. -/
def InterfaceFields.Unbroken (i : InterfaceFields P) : Prop :=
  ∀ a text, i.text a = some text → ∀ c ∈ text, isBreak c = false

/-- What is known of a config that was read from any text. -/
structure Config.Parsed (c : Config P) : Prop where
  unbroken : c.interfaze.Unbroken
  applications : c.interfaze.includedApplications.isEmpty = true ∨ c.interfaze.excludedApplications.isEmpty = true
  peers : ∀ p ∈ c.peers, p.Ok

section Peers

variable {b b' : Peer.Builder P} {line : List Char}

theorem atPlace_eq_ok {α : Type} {inSection : BadConfigException.InSection}
    {location : BadConfigException.Location} {x : Except ParseException α} {value : α} :
    ParseException.at inSection location x = .ok value ↔ x = .ok value := by
  cases x with
  | error e =>
      constructor
      · intro h
        cases h
      · intro h
        cases h
  | ok v =>
      constructor
      · intro h
        cases h
        rfl
      · intro h
        cases h
        rfl

theorem Peer.Builder.Ok.parseLine (hb : b.Ok) (h : b.parseLine line = .ok b') : b'.Ok := by
  rw [Peer.Builder.parseLine] at h
  split at h
  next => cases h
  next a ha =>
    rw [Peer.Builder.setAttribute] at h
    split at h
    next =>
      obtain ⟨networks, -, h⟩ := bind_eq_ok.mp h
      cases h
      exact hb
    next =>
      obtain ⟨endpoint, hparse, h⟩ := bind_eq_ok.mp h
      cases h
      intro e he
      cases he
      exact ⟨a.value, atPlace_eq_ok.mp hparse⟩
    next =>
      obtain ⟨value, -, h⟩ := bind_eq_ok.mp h
      cases h
      exact hb
    next =>
      obtain ⟨key, -, h⟩ := bind_eq_ok.mp h
      cases h
      exact hb
    next =>
      obtain ⟨key, -, h⟩ := bind_eq_ok.mp h
      cases h
      exact hb
    next => cases h

theorem Peer.Builder.Ok.build {p : Peer P} (hb : b.Ok) (h : b.build = .ok p) : p.Ok := by
  rw [Peer.Builder.build] at h
  split at h
  next => cases h
  next key hkey =>
    cases h
    exact hb

theorem Peer.ok_of_parse {lines : List (List Char)} {p : Peer P} (h : Peer.parse P lines = .ok p) : p.Ok := by
  obtain ⟨b, hloop, hbuild⟩ := bind_eq_ok.mp h
  have hinitial : (Peer.Builder.initial : Peer.Builder P).Ok := by
    intro e he
    cases he
  have hb : b.Ok := foldlM_keeps Peer.Builder.Ok (fun s line t _ hs ht => hs.parseLine ht) hinitial hloop
  exact hb.build hbuild

end Peers

section Interfaces

variable {b b' : Interface.Builder P} {line value : List Char}

/-- What a line sets, with its value. -/
inductive Interface.Builder.Sets (b : Interface.Builder P) (value : List Char) : Interface.Builder P → Prop where
  | addresses (networks : LinkedHashSet (InetNetwork P)) : Sets b value { b with addresses := networks }
  | dns {b' : Interface.Builder P} (h : b.parseDnsServers value = .ok b') : Sets b value b'
  | excludedApplications : Sets b value (b.parseExcludedApplications value)
  | includedApplications : Sets b value (b.parseIncludedApplications value)
  | number (a : NumberAttribute) (n : Option (Bounded a.max)) :
      Sets b value { b with number := Function.update b.number a n }
  | text (a : TextAttribute) : Sets b value (b.parseText a value)
  | privateKey (key : Key) : Sets b value { b with keyPair := some key }

theorem Interface.Builder.sets_of_parseNumber {a : NumberAttribute} (h : b.parseNumber a value = .ok b') :
    b.Sets value b' := by
  obtain ⟨n, -, h⟩ := bind_eq_ok.mp h
  cases h
  exact .number a n

theorem Interface.Builder.sets_of_parseLine (h : b.parseLine line = .ok b') :
    ∃ value, Stripped P.space value ∧ (∀ c ∈ value, c ∈ line ∧ P.dot c = true) ∧ b.Sets value b' := by
  rw [parseLine] at h
  split at h
  next => cases h
  next a ha =>
    obtain ⟨hstripped, hchars⟩ := parse_spec ha
    refine ⟨a.value, hstripped, hchars, ?_⟩
    rw [setAttribute] at h
    split at h
    case h_1 =>
      obtain ⟨networks, -, h⟩ := bind_eq_ok.mp h
      cases h
      exact .addresses networks
    case h_2 => exact .dns h
    case h_3 =>
      cases h
      exact .excludedApplications
    case h_4 =>
      cases h
      exact .includedApplications
    case h_7 =>
      obtain ⟨key, -, h⟩ := bind_eq_ok.mp h
      cases h
      exact .privateKey key
    case h_5 | h_6 | h_8 | h_9 | h_10 | h_11 | h_12 | h_13 | h_14 => exact sets_of_parseNumber h
    case h_15 | h_16 | h_17 | h_18 | h_19 | h_20 | h_21 | h_22 | h_23 =>
      cases h
      exact .text _
    case h_24 => cases h

theorem Interface.Builder.applications_of_build {i : Interface P} (h : b.build = .ok i) :
    i.toInterfaceFields = b.toInterfaceFields ∧
      (i.includedApplications.isEmpty = true ∨ i.excludedApplications.isEmpty = true) := by
  rw [build] at h
  split at h
  next => cases h
  next key hkey =>
    split at h
    next => cases h
    next happs =>
      cases h
      exact ⟨rfl, by simpa [imp_iff_not_or] using happs⟩

theorem isField_of_split (hstripped : Stripped P.space value) (hinline : ∀ c ∈ value, Inline P c)
    {field : List Char} (h : field ∈ Attribute.split P value) : IsField P field := by
  obtain ⟨hcomma, hfield, hsub⟩ := mem_splitFields (P.space_visible ',' (by decide)) hstripped h
  exact ⟨hcomma, hfield, fun c hc => hinline c (hsub c hc)⟩

theorem isText_of_trim (hinline : ∀ c ∈ value, Inline P c) (h : (trim value).isEmpty = false) :
    IsText P (trim value) where
  ne_nil := by simpa using h
  trimmed := stripped_strip value
  inline c hc := hinline c (mem_of_mem_strip hc)

/-- A text that is there after a text was set was there before, or is the one that was set. -/
theorem text_parseText {a a' : TextAttribute} {text : List Char} (h : (b.parseText a value).text a' = some text) :
    b.text a' = some text ∨ text = trim value ∧ (trim value).isEmpty = false := by
  by_cases ha : a' = a
  · subst ha
    have hset : (if (trim value).isEmpty = true then none else some (trim value)) = some text := by
      rw [← h]
      exact (Function.update_self a' _ b.text).symm
    split at hset
    next => cases hset
    next hne => exact .inr ⟨(Option.some.inj hset).symm, Bool.eq_false_iff.mpr hne⟩
  · left
    rw [← h]
    exact (Function.update_of_ne ha _ b.text).symm

theorem text_addDns {texts : List (List Char)} (h : b.addDns texts = .ok b') : b'.text = b.text := by
  induction texts generalizing b with
  | nil =>
      cases h
      rfl
  | cons text texts ih =>
      rw [Interface.Builder.addDns] at h
      split at h
      next =>
        have hrest := ih h
        exact hrest
      next =>
        split at h
        next => cases h
        next =>
          have hrest := ih h
          exact hrest

theorem InterfaceFields.Ok.addDns {texts : List (List Char)} (hb : b.toInterfaceFields.Ok)
    (h : b.addDns texts = .ok b') : b'.toInterfaceFields.Ok := by
  induction texts generalizing b with
  | nil =>
      cases h
      exact hb
  | cons text texts ih =>
      rw [Interface.Builder.addDns] at h
      split at h
      next address haddress =>
        refine ih ?_ h
        exact ⟨hb.dnsSearchDomains, hb.excludedApplications, hb.includedApplications, hb.text⟩
      next e he =>
        split at h
        next => cases h
        next hgood =>
          refine ih ?_ h
          refine ⟨?_, hb.excludedApplications, hb.includedApplications, hb.text⟩
          intro d hd
          rcases LinkedHashSet.mem_add.mp hd with hd | rfl
          · exact hb.dnsSearchDomains d hd
          · rw [not_or, Bool.not_eq_false] at hgood
            exact ⟨hgood.2, by rw [he, eq_of_parse_error he]⟩

theorem InterfaceFields.Ok.parseLine (hb : b.toInterfaceFields.Ok) (hline : ∀ c ∈ line, LineChar P c)
    (h : b.parseLine line = .ok b') : b'.toInterfaceFields.Ok := by
  obtain ⟨value, hstripped, hchars, hsets⟩ := Interface.Builder.sets_of_parseLine h
  have hinline : ∀ c ∈ value, Inline P c :=
    fun c hc => (hline c (hchars c hc).1).inline (hchars c hc).2
  have hfield : ∀ field ∈ Attribute.split P value, IsField P field :=
    fun field hf => isField_of_split hstripped hinline hf
  cases hsets with
  | addresses | number | privateKey =>
      exact ⟨hb.dnsSearchDomains, hb.excludedApplications, hb.includedApplications, hb.text⟩
  | dns h => exact hb.addDns h
  | excludedApplications =>
      refine ⟨hb.dnsSearchDomains, fun app happ => ?_, hb.includedApplications, hb.text⟩
      exact (LinkedHashSet.mem_addAll.mp happ).elim (hb.excludedApplications app) (hfield app)
  | includedApplications =>
      refine ⟨hb.dnsSearchDomains, hb.excludedApplications, fun app happ => ?_, hb.text⟩
      exact (LinkedHashSet.mem_addAll.mp happ).elim (hb.includedApplications app) (hfield app)
  | text a =>
      refine ⟨hb.dnsSearchDomains, hb.excludedApplications, hb.includedApplications, fun a' text htext => ?_⟩
      obtain hold | ⟨rfl, hne⟩ := text_parseText htext
      · exact hb.text a' text hold
      · exact isText_of_trim hinline hne

theorem InterfaceFields.Unbroken.parseLine (hb : b.toInterfaceFields.Unbroken)
    (hline : ∀ c ∈ line, isBreak c = false) (h : b.parseLine line = .ok b') : b'.toInterfaceFields.Unbroken := by
  obtain ⟨value, -, hchars, hsets⟩ := Interface.Builder.sets_of_parseLine h
  intro a' text htext
  cases hsets with
  | addresses | excludedApplications | includedApplications | number | privateKey => exact hb a' text htext
  | dns h => exact hb a' text ((congrFun (text_addDns h) a').symm.trans htext)
  | text a =>
      obtain hold | ⟨rfl, -⟩ := text_parseText htext
      · exact hb a' text hold
      · exact fun c hc => hline c (hchars c (mem_of_mem_strip hc)).1

theorem Interface.ok_of_parse {lines : List (List Char)} {i : Interface P}
    (hlines : ∀ line ∈ lines, ∀ c ∈ line, LineChar P c) (h : Interface.parse P lines = .ok i) : i.Ok := by
  obtain ⟨b, hloop, hbuild⟩ := bind_eq_ok.mp h
  have hinitial : (Interface.Builder.initial : Interface.Builder P).toInterfaceFields.Ok :=
    ⟨fun _ h => (by cases h), fun _ h => (by cases h), fun _ h => (by cases h), fun _ _ h => (by cases h)⟩
  have hb : b.toInterfaceFields.Ok :=
    foldlM_keeps (fun b : Interface.Builder P => b.toInterfaceFields.Ok)
      (fun s line t hline hs ht => hs.parseLine (hlines line hline) ht) hinitial hloop
  obtain ⟨hfields, happs⟩ := Interface.Builder.applications_of_build hbuild
  exact ⟨hfields ▸ hb, happs⟩

theorem Interface.unbroken_of_parse {lines : List (List Char)} {i : Interface P}
    (hlines : ∀ line ∈ lines, ∀ c ∈ line, isBreak c = false) (h : Interface.parse P lines = .ok i) :
    i.Unbroken ∧ (i.includedApplications.isEmpty = true ∨ i.excludedApplications.isEmpty = true) := by
  obtain ⟨b, hloop, hbuild⟩ := bind_eq_ok.mp h
  have hb : b.toInterfaceFields.Unbroken :=
    foldlM_keeps (fun b : Interface.Builder P => b.toInterfaceFields.Unbroken)
      (fun s line t hline hs ht => hs.parseLine (hlines line hline) ht) (fun _ _ h => (by cases h)) hloop
  obtain ⟨hfields, happs⟩ := Interface.Builder.applications_of_build hbuild
  exact ⟨hfields ▸ hb, happs⟩

end Interfaces

section Sections

variable {s s' : Config.ParseState P} {line : List Char} {good : Char → Prop}

/-- The lines that were collected so far, from lines of good characters, and the peers. -/
structure Config.ParseState.Ok (good : Char → Prop) (s : Config.ParseState P) : Prop where
  interfaceLines : ∀ line ∈ s.interfaceLines, ∀ c ∈ line, good c
  peers : ∀ p ∈ s.peers, p.Ok

namespace Config.ParseState.Ok

theorem parsePeer (hs : s.Ok good) (h : s.parsePeer = .ok s') : s'.Ok good := by
  obtain ⟨peer, hpeer, h⟩ := bind_eq_ok.mp h
  cases h
  refine ⟨hs.interfaceLines, fun p hp => ?_⟩
  rcases List.mem_append.mp hp with hp | hp
  · exact hs.peers p hp
  · rw [List.mem_singleton.mp hp]
    exact Peer.ok_of_parse hpeer

theorem closeSection (hs : s.Ok good) (h : s.closeSection = .ok s') : s'.Ok good := by
  rw [ParseState.closeSection] at h
  split at h
  next => exact hs.parsePeer h
  next =>
    cases h
    exact hs

theorem openSection (hs : s.Ok good) (h : s.openSection line = .ok s') : s'.Ok good := by
  obtain ⟨t, ht, h⟩ := bind_eq_ok.mp h
  have htOk := hs.closeSection ht
  split at h
  next =>
    cases h
    exact ⟨htOk.interfaceLines, htOk.peers⟩
  next =>
    split at h
    next =>
      cases h
      exact ⟨htOk.interfaceLines, htOk.peers⟩
    next => cases h

theorem readLine (hs : s.Ok good) (hline : ∀ c ∈ line, good c) (h : s.readLine line = .ok s') : s'.Ok good := by
  unfold ParseState.readLine at h
  split at h
  next =>
    cases h
    exact hs
  next => exact hs.openSection h
  next =>
    split at h
    next =>
      cases h
      refine ⟨fun other hother => ?_, hs.peers⟩
      rcases List.mem_append.mp hother with hother | hother
      · exact hs.interfaceLines other hother
      · rw [List.mem_singleton.mp hother]
        exact hline
    next =>
      split at h
      next =>
        cases h
        exact ⟨hs.interfaceLines, hs.peers⟩
      next => cases h

end Config.ParseState.Ok

theorem mem_linesOfChars {acc cs line : List Char} (hacc : ∀ c ∈ acc, isBreak c = false)
    (h : line ∈ linesOfChars acc cs) : ∀ c ∈ line, (c ∈ acc ∨ c ∈ cs) ∧ isBreak c = false := by
  have hcurrent : ∀ rest : List Char, ∀ c ∈ acc.reverse, (c ∈ acc ∨ c ∈ rest) ∧ isBreak c = false :=
    fun rest c hc => ⟨.inl (List.mem_reverse.mp hc), hacc c (List.mem_reverse.mp hc)⟩
  fun_induction linesOfChars acc cs with
  | case1 => cases h
  | case2 acc hne =>
      rw [List.mem_singleton.mp h]
      exact hcurrent []
  | case3 acc cs ih =>
      rcases List.mem_cons.mp h with rfl | h
      · exact hcurrent _
      · intro c hc
        obtain ⟨hmem, hbreak⟩ := ih (List.forall_mem_nil _) h (fun _ _ hnil => by cases hnil) c hc
        have hrest : c ∈ cs := hmem.resolve_left List.not_mem_nil
        exact ⟨.inr (List.mem_cons_of_mem _ (List.mem_cons_of_mem _ hrest)), hbreak⟩
  | case4 acc cs hnext ih =>
      rcases List.mem_cons.mp h with rfl | h
      · exact hcurrent _
      · intro c hc
        obtain ⟨hmem, hbreak⟩ := ih (List.forall_mem_nil _) h (fun _ _ hnil => by cases hnil) c hc
        have hrest : c ∈ cs := hmem.resolve_left List.not_mem_nil
        exact ⟨.inr (List.mem_cons_of_mem _ hrest), hbreak⟩
  | case5 acc cs ih =>
      rcases List.mem_cons.mp h with rfl | h
      · exact hcurrent _
      · intro c hc
        obtain ⟨hmem, hbreak⟩ := ih (List.forall_mem_nil _) h (fun _ _ hnil => by cases hnil) c hc
        have hrest : c ∈ cs := hmem.resolve_left List.not_mem_nil
        exact ⟨.inr (List.mem_cons_of_mem _ hrest), hbreak⟩
  | case6 acc c cs hcrlf hcr hlf ih =>
      have hc : isBreak c = false := by
        rw [isBreak, Bool.or_eq_false_iff, beq_eq_false_iff_ne, beq_eq_false_iff_ne]
        exact ⟨hlf, hcr⟩
      have hacc' : ∀ d ∈ c :: acc, isBreak d = false := List.forall_mem_cons.mpr ⟨hc, hacc⟩
      intro d hd
      obtain ⟨hmem, hbreak⟩ := ih hacc' h
        (fun rest d hd => ⟨.inl (List.mem_reverse.mp hd), hacc' d (List.mem_reverse.mp hd)⟩) d hd
      refine ⟨?_, hbreak⟩
      rcases hmem with hmem | hmem
      · rcases List.mem_cons.mp hmem with rfl | hmem
        · exact .inr List.mem_cons_self
        · exact .inl hmem
      · exact .inr (List.mem_cons_of_mem _ hmem)

theorem unbroken_stripLine {text line : List Char}
    (h : line ∈ (linesOfChars [] text).map Config.ParseState.stripLine) :
    ∀ c ∈ line, c ∈ text ∧ c ≠ '#' ∧ isBreak c = false := by
  obtain ⟨whole, hwhole, rfl⟩ := List.mem_map.mp h
  intro c hc
  have hcut : c ∈ whole.takeWhile (· != '#') := mem_of_mem_strip hc
  obtain ⟨hmem, hbreak⟩ := mem_linesOfChars (List.forall_mem_nil _) hwhole c ((List.takeWhile_prefix _).mem hcut)
  exact ⟨hmem.resolve_left List.not_mem_nil, by simpa using List.mem_takeWhile_imp hcut, hbreak⟩

theorem Config.sections_of_parse {text : List Char} {c : Config P}
    (hgood : ∀ line ∈ (linesOfChars [] text).map ParseState.stripLine, ∀ d ∈ line, good d)
    (h : Config.parse P text = .ok c) :
    (∃ lines, (∀ line ∈ lines, ∀ d ∈ line, good d) ∧ Interface.parse P lines = .ok c.interfaze) ∧
      ∀ p ∈ c.peers, p.Ok := by
  obtain ⟨s, hloop, hfinish⟩ := bind_eq_ok.mp h
  have hinitial : (ParseState.initial : ParseState P).Ok good :=
    ⟨fun _ h => (by cases h), fun _ h => (by cases h)⟩
  have hs : s.Ok good := foldlM_keeps (ParseState.Ok good)
    (fun s line t hline hs ht => hs.readLine (hgood line hline) ht) hinitial hloop
  obtain ⟨t, ht, hfinish⟩ := bind_eq_ok.mp hfinish
  have htOk := hs.closeSection ht
  split at hfinish
  next => cases hfinish
  next =>
    obtain ⟨i, hi, hfinish⟩ := bind_eq_ok.mp hfinish
    cases hfinish
    exact ⟨⟨_, htOk.interfaceLines, hi⟩, htOk.peers⟩

/-- **What was read.** -/
theorem Config.parsed_of_parse {text : List Char} {c : Config P} (h : Config.parse P text = .ok c) : c.Parsed := by
  obtain ⟨⟨lines, hlines, hparse⟩, hpeers⟩ :=
    sections_of_parse (fun line hline d hd => (unbroken_stripLine hline d hd).2.2) h
  obtain ⟨hunbroken, happs⟩ := Interface.unbroken_of_parse hlines hparse
  exact ⟨hunbroken, happs, hpeers⟩

/-- **What was read**, where there are no unusual blanks. -/
theorem Config.ok_of_parse {text : List Char} {c : Config P} (htext : ∀ d ∈ text, P.space d = blank d)
    (h : Config.parse P text = .ok c) : c.Ok := by
  have hgood : ∀ line ∈ (linesOfChars [] text).map ParseState.stripLine, ∀ d ∈ line, LineChar P d := by
    intro line hline d hd
    obtain ⟨hmem, hcomment, hbreak⟩ := unbroken_stripLine hline d hd
    exact ⟨hcomment, hbreak, htext d hmem⟩
  obtain ⟨⟨lines, hlines, hparse⟩, hpeers⟩ := sections_of_parse hgood h
  exact ⟨Interface.ok_of_parse hlines hparse, hpeers⟩

end Sections

end Awg
