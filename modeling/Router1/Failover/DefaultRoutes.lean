import Router1.Dart.Cidr
import Router1.Failover.WindowsService

/-!
# The default routes of a value

What `splitDefaultRoutes` does to a comma-separated value whose entries are blocks. It works on the text: an
entry is replaced if it ends with `0.0.0.0/0` or `::/0`, in front of which another part of the address may
stand, and the two entries it becomes are the half of its own address and a fixed upper half. A default
route that is spelled otherwise stays, and one in the upper half loses the lower one.
-/

namespace Failover

open Dart

/-! ### Replacing a text -/

section

variable {p r a b cs : List Char} {c : Char} {n : Nat}

theorem replaceAllChars_skip (p r : List Char) (n : Nat) (cs : List Char) :
    replaceAllChars p r n cs = replaceAllChars p r 0 (cs.drop n) := by
  induction cs generalizing n with
  | nil => cases n <;> simp [replaceAllChars]
  | cons c cs ih =>
      cases n with
      | zero => rfl
      | succ n => rw [replaceAllChars, ih, List.drop_succ_cons]

/-- A character that is not in the pattern separates the matches. -/
theorem replaceAllChars_append (hp : p ≠ []) (hc : c ∉ p) (hn : n ≤ a.length) :
    replaceAllChars p r n (a ++ c :: b) =
      replaceAllChars p r n a ++ c :: replaceAllChars p r 0 b := by
  induction a generalizing n with
  | nil =>
      have hmatch : ¬p.isPrefixOf (c :: b) = true := by
        rw [List.isPrefixOf_iff_prefix, ← List.nil_append (c :: b), prefix_append_cons_iff hc,
          List.prefix_nil]
        exact hp
      rw [Nat.le_zero.mp hn, List.nil_append]
      simp [replaceAllChars, hmatch]
  | cons d a ih =>
      cases n with
      | succ n =>
          rw [List.cons_append, replaceAllChars, replaceAllChars]
          exact ih (by simpa using hn)
      | zero =>
          rw [List.cons_append, replaceAllChars, replaceAllChars, ← List.cons_append]
          have hsame : p.isPrefixOf (d :: a ++ c :: b) = p.isPrefixOf (d :: a) := by
            rw [Bool.eq_iff_iff, List.isPrefixOf_iff_prefix, List.isPrefixOf_iff_prefix,
              prefix_append_cons_iff hc]
          rw [hsame]
          split
          · next hstart =>
              have hlength := (List.isPrefixOf_iff_prefix.mp hstart).length_le
              rw [List.length_cons] at hlength
              rw [ih (by omega), List.append_assoc]
          · rw [ih (Nat.zero_le _), List.cons_append]

theorem replaceAllChars_of_absent (h : ¬p <:+: cs) : replaceAllChars p r 0 cs = cs := by
  induction cs with
  | nil => rfl
  | cons c cs ih =>
      rw [replaceAllChars, if_neg, ih fun hfound => h (hfound.trans (List.suffix_cons c cs).isInfix)]
      rw [List.isPrefixOf_iff_prefix]
      exact fun hstart => h hstart.isInfix

/-- A pattern at the end of a text whose mark stands nowhere before it. -/
theorem replaceAllChars_ending {q t u : List Char} {mark : Char} (hu : mark ∉ u) (hq : mark ∉ q) :
    replaceAllChars (q ++ mark :: t) r 0 (u ++ (q ++ mark :: t)) = u ++ r := by
  induction u with
  | nil =>
      rw [List.nil_append, List.nil_append]
      obtain ⟨d, ds, hpattern⟩ : ∃ d ds, q ++ mark :: t = d :: ds :=
        List.exists_cons_of_ne_nil (by simp)
      rw [hpattern, replaceAllChars, if_pos (List.isPrefixOf_iff_prefix.mpr List.prefix_rfl),
        replaceAllChars_skip]
      simp [replaceAllChars]
  | cons d u ih =>
      rw [List.mem_cons, not_or] at hu
      rw [List.cons_append, replaceAllChars, if_neg, ih hu.2, List.cons_append]
      -- the mark of a match would stand before the one of the text
      rw [List.isPrefixOf_iff_prefix]
      rintro ⟨rest, hrest⟩
      have hparts : q ++ mark :: (t ++ rest) = (d :: u ++ q) ++ mark :: t := by simpa using hrest
      have hfront : q = d :: u ++ q := (append_cons_inj hq (by simp [hu, hq]) hparts).1
      have hlength := congrArg List.length hfront
      rw [List.length_append, List.length_cons] at hlength
      omega

/-- A replacement that shows something is seen in the result. -/
theorem isSpace_of_replaceAllChars (visible : Char) (hvisible : visible ∈ r)
    (hspace : WindowsAwgTunnelService.isSpace visible = false)
    (h : ∀ c ∈ replaceAllChars p r 0 cs, WindowsAwgTunnelService.isSpace c = true) :
    ∀ c ∈ cs, WindowsAwgTunnelService.isSpace c = true := by
  induction cs with
  | nil => exact nofun
  | cons c cs ih =>
      rw [replaceAllChars] at h
      split at h
      · have hseen := h visible (List.mem_append_left _ hvisible)
        rw [hspace] at hseen
        cases hseen
      · intro d hd
        obtain rfl | hd := List.mem_cons.mp hd
        · exact h d List.mem_cons_self
        · exact ih (fun e he => h e (List.mem_cons_of_mem _ he)) d hd

end

/-! ### Entries -/

namespace WindowsAwgTunnelService

open Cidr

def strip (cs : List Char) : List Char := (cs.dropWhile isSpace).rdropWhile isSpace

def isBlank (cs : List Char) : Bool := cs.all isSpace

/-- The entries of a comma-separated value, without the white space around them. -/
def entriesOf (value : List Char) : List (List Char) :=
  if isBlank value then [] else (splitChars ',' value).map strip

def defaultIpv4 : List Char := "0.0.0.0/0".toList

def defaultIpv6 : List Char := "::/0".toList

def rewriteEntry (entry : List Char) : List (List Char) :=
  if defaultIpv4.isSuffixOf entry then [entry.dropLast ++ ['1'], "128.0.0.0/1".toList]
  else if defaultIpv6.isSuffixOf entry then [entry.dropLast ++ ['1'], "8000::/1".toList]
  else [entry]

section

variable {c : Char} {cs a b entry value before after : List Char} {block : Block}

theorem isBlank_iff : isBlank cs = true ↔ ∀ c ∈ cs, isSpace c = true := List.all_eq_true

theorem isBlank_append (a b : List Char) : isBlank (a ++ b) = (isBlank a && isBlank b) := List.all_append

theorem strip_surrounded (hbefore : isBlank before = true) (hafter : isBlank after = true)
    (cs : List Char) :
    strip (before ++ cs ++ after) = strip cs := by
  rw [isBlank_iff] at hbefore hafter
  rw [strip, strip, List.append_assoc, List.dropWhile_append_of_pos hbefore]
  by_cases hall : ∀ c ∈ cs, isSpace c = true
  · rw [List.dropWhile_append_of_pos hall, List.dropWhile_eq_nil_iff.mpr hall,
      List.dropWhile_eq_nil_iff.mpr hafter]
  · rw [List.dropWhile_append, if_neg, rdropWhile_append_of_pos hafter]
    simpa using hall

theorem exists_of_strip (cs : List Char) :
    ∃ before after, isBlank before = true ∧ isBlank after = true ∧ cs = before ++ strip cs ++ after := by
  refine ⟨cs.takeWhile isSpace, (cs.dropWhile isSpace).rtakeWhile isSpace, ?_, ?_, ?_⟩
  · exact isBlank_iff.mpr fun c hc => List.mem_takeWhile_imp hc
  · exact isBlank_iff.mpr fun c hc => List.mem_rtakeWhile_imp hc
  · rw [List.append_assoc, strip, List.rdropWhile_append_rtakeWhile, List.takeWhile_append_dropWhile]

theorem strip_of_visible (h : ∀ c ∈ cs, isSpace c = false) : strip cs = cs := by
  rw [strip, List.dropWhile_eq_self_iff.mpr, List.rdropWhile_eq_self_iff.mpr]
  · intro hne
    rw [h _ (List.getLast_mem hne)]
    exact Bool.false_ne_true
  · intro hpos
    rw [h _ (List.getElem_mem hpos)]
    exact Bool.false_ne_true

theorem isSpace_of_isBlockChar (h : isBlockChar c = true) : isSpace c = false := by
  have hrange := toNat_of_isBlockChar h
  simp only [isSpace, isWhitespace, Bool.and_eq_false_imp, Bool.or_eq_true, Bool.and_eq_true,
    decide_eq_true_eq, beq_iff_eq]
  intro hspace
  omega

theorem isBlockChar_of_isSpace (h : isSpace c = true) : isBlockChar c = false := by
  rw [Bool.eq_false_iff]
  intro hblock
  rw [isSpace_of_isBlockChar hblock] at h
  cases h

theorem not_mem_defaults (h : isBlockChar c = false) : c ∉ defaultIpv4 ∧ c ∉ defaultIpv6 := by
  have hall : ∀ d ∈ defaultIpv4 ++ defaultIpv6, isBlockChar d = true := forall_mem_of_all (by decide)
  rw [← not_or, ← List.mem_append]
  intro hmem
  rw [hall c hmem] at h
  cases h

theorem splitDefaultRoutes_eq (value : List Char) :
    splitDefaultRoutes value =
      replaceAllChars defaultIpv6 "::/1, 8000::/1".toList 0
        (replaceAllChars defaultIpv4 "0.0.0.0/1, 128.0.0.0/1".toList 0 value) := rfl

theorem splitDefaultRoutes_append (hc : isBlockChar c = false) (a b : List Char) :
    splitDefaultRoutes (a ++ c :: b) = splitDefaultRoutes a ++ c :: splitDefaultRoutes b := by
  obtain ⟨hipv4, hipv6⟩ := not_mem_defaults hc
  rw [splitDefaultRoutes_eq, replaceAllChars_append (by decide) hipv4 (Nat.zero_le _),
    replaceAllChars_append (by decide) hipv6 (Nat.zero_le _)]
  rfl

theorem mem_splitDefaultRoutes (hc : isBlockChar c = false) (h : c ∈ cs) :
    c ∈ splitDefaultRoutes cs := by
  obtain ⟨a, b, rfl⟩ := List.append_of_mem h
  rw [splitDefaultRoutes_append hc]
  simp

theorem isBlank_of_splitDefaultRoutes (h : isBlank (splitDefaultRoutes cs) = true) :
    isBlank cs = true := by
  rw [isBlank_iff] at h ⊢
  have hfirst := isSpace_of_replaceAllChars ':' (by decide) (by decide) h
  exact isSpace_of_replaceAllChars '/' (by decide) (by decide) hfirst

theorem splitDefaultRoutes_surrounded (hbefore : isBlank before = true) (hafter : isBlank after = true)
    (cs : List Char) :
    splitDefaultRoutes (before ++ cs ++ after) = before ++ splitDefaultRoutes cs ++ after := by
  have hfront : ∀ x, splitDefaultRoutes (before ++ x) = before ++ splitDefaultRoutes x := by
    intro x
    induction before with
    | nil => rfl
    | cons c before ih =>
        rw [isBlank, List.all_cons, Bool.and_eq_true] at hbefore
        rw [List.cons_append, ← List.nil_append (c :: (before ++ x)),
          splitDefaultRoutes_append (isBlockChar_of_isSpace hbefore.1), ih hbefore.2]
        rfl
  have hback : ∀ x, splitDefaultRoutes (x ++ after) = splitDefaultRoutes x ++ after := by
    intro x
    induction after generalizing x with
    | nil => simp
    | cons c after ih =>
        rw [isBlank, List.all_cons, Bool.and_eq_true] at hafter
        rw [splitDefaultRoutes_append (isBlockChar_of_isSpace hafter.1)]
        have hrest := ih hafter.2 []
        rw [List.nil_append] at hrest
        rw [hrest]
        rfl
  rw [hback, hfront]

theorem splitDefaultRoutes_of_blank (h : isBlank cs = true) : splitDefaultRoutes cs = cs := by
  have hsame := splitDefaultRoutes_surrounded h (rfl : isBlank [] = true) []
  have hnil : splitDefaultRoutes [] = [] := by decide
  rwa [List.append_nil, List.append_nil, List.append_nil, hnil, List.append_nil] at hsame

/-- A default route inside the text of a block stands at its end. -/
theorem exists_of_found {q : List Char} (h : Block.ofChars entry = some block)
    (hfound : q ++ ['/', '0'] <:+: entry) :
    ∃ u, entry = u ++ (q ++ ['/', '0']) ∧ '/' ∉ u ++ q ∧
      Address.ofChars (u ++ q) = some block.address ∧ block.length = 0 := by
  obtain ⟨address, length, hentry, hslash, hlengthSlash, haddress, hdecimal, hlength⟩ :=
    Block.exists_of_ofChars h
  obtain ⟨u, rest, hparts⟩ := hfound
  have hsplit : (u ++ q) ++ '/' :: ('0' :: rest) = address ++ '/' :: length := by
    rw [← hentry, ← hparts]
    simp
  have hfront : '/' ∉ u ++ q := by
    have hcount := congrArg (List.count '/') hsplit
    simp only [List.count_append, List.count_cons_self, List.count_eq_zero.mpr hslash,
      List.count_eq_zero.mpr hlengthSlash] at hcount
    apply List.count_eq_zero.mp
    rw [List.count_append]
    omega
  obtain ⟨hsame, hzero⟩ := append_cons_inj hfront hslash hsplit
  rw [← hzero] at hdecimal hlength
  rw [eq_of_isDecimal_zero hdecimal] at hlength hparts
  refine ⟨u, ?_, hfront, hsame ▸ haddress, hlength.symm⟩
  rw [← hparts]
  simp

theorem suffix_of_found {q : List Char} (h : Block.ofChars entry = some block)
    (hfound : q ++ ['/', '0'] <:+: entry) : q ++ ['/', '0'] <:+ entry := by
  obtain ⟨u, hentry, -⟩ := exists_of_found h hfound
  exact ⟨u, hentry.symm⟩

/-- The text of an entry that ends with a default route of the fourth version. -/
theorem splitDefaultRoutes_ipv4 (h : Block.ofChars entry = some block) (hsuffix : defaultIpv4 <:+ entry) :
    splitDefaultRoutes entry = (entry.dropLast ++ ['1']) ++ ',' :: ' ' :: "128.0.0.0/1".toList := by
  obtain ⟨u, rfl, hslash, haddress, -⟩ := exists_of_found (q := "0.0.0.0".toList) h hsuffix.isInfix
  have hfirst : replaceAllChars defaultIpv4 "0.0.0.0/1, 128.0.0.0/1".toList 0
      (u ++ ("0.0.0.0".toList ++ ['/', '0'])) = u ++ "0.0.0.0/1, 128.0.0.0/1".toList :=
    replaceAllChars_ending (q := "0.0.0.0".toList) (t := ['0']) (fun hu => hslash (List.mem_append_left _ hu)) (by decide)
  have hhalf : replaceAllChars defaultIpv6 "::/1, 8000::/1".toList 0
      ((u ++ "0.0.0.0".toList) ++ ['/', '1']) = (u ++ "0.0.0.0".toList) ++ ['/', '1'] := by
    apply replaceAllChars_of_absent
    intro hfound
    obtain ⟨-, -, -, -, hzero⟩ :=
      exists_of_found (q := "::".toList) (Block.ofChars_half haddress hslash) hfound
    exact absurd hzero Nat.one_ne_zero
  have hupper : replaceAllChars defaultIpv6 "::/1, 8000::/1".toList 0 " 128.0.0.0/1".toList =
      " 128.0.0.0/1".toList := by decide
  have hparts : u ++ "0.0.0.0/1, 128.0.0.0/1".toList =
      ((u ++ "0.0.0.0".toList) ++ ['/', '1']) ++ ',' :: " 128.0.0.0/1".toList := by simp
  rw [splitDefaultRoutes_eq, hfirst, hparts,
    replaceAllChars_append (by decide) (by decide) (Nat.zero_le _), hhalf, hupper]
  simp

theorem splitDefaultRoutes_ipv6 (h : Block.ofChars entry = some block) (hipv4 : ¬defaultIpv4 <:+ entry)
    (hsuffix : defaultIpv6 <:+ entry) :
    splitDefaultRoutes entry = (entry.dropLast ++ ['1']) ++ ',' :: ' ' :: "8000::/1".toList := by
  have hfirst : replaceAllChars defaultIpv4 "0.0.0.0/1, 128.0.0.0/1".toList 0 entry = entry :=
    replaceAllChars_of_absent fun hfound => hipv4 (suffix_of_found (q := "0.0.0.0".toList) h hfound)
  obtain ⟨u, rfl, hslash, -⟩ := exists_of_found (q := "::".toList) h hsuffix.isInfix
  have hsecond : replaceAllChars defaultIpv6 "::/1, 8000::/1".toList 0
      (u ++ ("::".toList ++ ['/', '0'])) = u ++ "::/1, 8000::/1".toList :=
    replaceAllChars_ending (q := "::".toList) (t := ['0']) (fun hu => hslash (List.mem_append_left _ hu)) (by decide)
  rw [splitDefaultRoutes_eq, hfirst, hsecond]
  simp

theorem splitDefaultRoutes_other (h : Block.ofChars entry = some block) (hipv4 : ¬defaultIpv4 <:+ entry)
    (hipv6 : ¬defaultIpv6 <:+ entry) : splitDefaultRoutes entry = entry := by
  have hfirst : replaceAllChars defaultIpv4 "0.0.0.0/1, 128.0.0.0/1".toList 0 entry = entry :=
    replaceAllChars_of_absent fun hfound => hipv4 (suffix_of_found (q := "0.0.0.0".toList) h hfound)
  rw [splitDefaultRoutes_eq, hfirst]
  exact replaceAllChars_of_absent fun hfound =>
    hipv6 (suffix_of_found (q := "::".toList) h hfound)

theorem strip_padded (hbefore : isBlank before = true) (hafter : isBlank after = true)
    (hcs : ∀ c ∈ cs, isBlockChar c = true) :
    splitChars ',' (before ++ cs ++ after) = [before ++ cs ++ after] ∧
      strip (before ++ cs ++ after) = cs := by
  constructor
  · apply splitChars_of_not_mem
    rw [List.mem_append, List.mem_append, not_or, not_or]
    refine ⟨⟨fun hc => ?_, fun hc => ?_⟩, fun hc => ?_⟩
    · exact absurd (isBlank_iff.mp hbefore _ hc) (by decide)
    · exact absurd (hcs _ hc) (by decide)
    · exact absurd (isBlank_iff.mp hafter _ hc) (by decide)
  · rw [strip_surrounded hbefore hafter]
    exact strip_of_visible fun c hc => isSpace_of_isBlockChar (hcs c hc)

theorem entries_of_pair {first second : List Char} (hbefore : isBlank before = true)
    (hafter : isBlank after = true) (hfirst : ∀ c ∈ first, isBlockChar c = true)
    (hsecond : ∀ c ∈ second, isBlockChar c = true) :
    (splitChars ',' (before ++ (first ++ ',' :: ' ' :: second) ++ after)).map strip =
      [first, second] := by
  have hparts : before ++ (first ++ ',' :: ' ' :: second) ++ after =
      (before ++ first ++ []) ++ ',' :: ([' '] ++ second ++ after) := by simp
  obtain ⟨hfirstSplit, hfirstStrip⟩ := strip_padded hbefore (rfl : isBlank [] = true) hfirst
  obtain ⟨hsecondSplit, hsecondStrip⟩ := strip_padded (rfl : isBlank [' '] = true) hafter hsecond
  rw [hparts, splitChars_append, hfirstSplit, hsecondSplit, List.map_append, List.map_singleton,
    List.map_singleton, hfirstStrip, hsecondStrip]
  rfl

theorem isBlockChar_of_halved (h : Block.ofChars entry = some block) :
    ∀ c ∈ entry.dropLast ++ ['1'], isBlockChar c = true := by
  intro c hc
  obtain hc | hc := List.mem_append.mp hc
  · exact isBlockChar_of_block h (List.dropLast_subset _ hc)
  · rw [List.mem_singleton.mp hc]
    rfl

theorem entries_of_entry (h : Block.ofChars entry = some block) (hbefore : isBlank before = true)
    (hafter : isBlank after = true) :
    (splitChars ',' (splitDefaultRoutes (before ++ entry ++ after))).map strip = rewriteEntry entry := by
  rw [splitDefaultRoutes_surrounded hbefore hafter, rewriteEntry]
  simp only [List.isSuffixOf_iff_suffix]
  split
  · next hipv4 =>
      rw [splitDefaultRoutes_ipv4 h hipv4]
      exact entries_of_pair hbefore hafter (isBlockChar_of_halved h) (forall_mem_of_all (by decide))
  · next hipv4 =>
      split
      · next hipv6 =>
          rw [splitDefaultRoutes_ipv6 h hipv4 hipv6]
          exact entries_of_pair hbefore hafter (isBlockChar_of_halved h) (forall_mem_of_all (by decide))
      · next hipv6 =>
          obtain ⟨hsplit, hstrip⟩ := strip_padded hbefore hafter fun c hc => isBlockChar_of_block h hc
          rw [splitDefaultRoutes_other h hipv4 hipv6, hsplit, List.map_singleton, hstrip]

theorem splitChars_splitDefaultRoutes (front value : List Char) (hfront : ',' ∉ front) :
    splitChars ',' (splitDefaultRoutes (front ++ value)) =
      (splitChars ',' (front ++ value)).flatMap fun piece => splitChars ',' (splitDefaultRoutes piece) := by
  induction value generalizing front with
  | nil =>
      rw [List.append_nil, splitChars_of_not_mem hfront]
      simp
  | cons c value ih =>
      by_cases hc : c = ','
      · have hrest := ih [] List.not_mem_nil
        rw [List.nil_append] at hrest
        rw [hc, splitDefaultRoutes_append (by decide), splitChars_append, splitChars_append,
          splitChars_of_not_mem hfront, hrest]
        simp
      · rw [List.append_cons]
        refine ih _ ?_
        rw [List.mem_append, not_or, List.mem_singleton]
        exact ⟨hfront, Ne.symm hc⟩

/-- **A value.** Its entries are rewritten one by one. -/
theorem entriesOf_splitDefaultRoutes
    (h : ∀ entry ∈ entriesOf value, ∃ block, Block.ofChars entry = some block) :
    entriesOf (splitDefaultRoutes value) = (entriesOf value).flatMap rewriteEntry := by
  by_cases hblank : isBlank value = true
  · rw [splitDefaultRoutes_of_blank hblank]
    simp [entriesOf, hblank]
  · have hshown : ¬isBlank (splitDefaultRoutes value) = true :=
      fun hall => hblank (isBlank_of_splitDefaultRoutes hall)
    have hsplit := splitChars_splitDefaultRoutes [] value List.not_mem_nil
    rw [List.nil_append] at hsplit
    rw [entriesOf, if_neg hblank] at h
    rw [entriesOf, if_neg hshown, entriesOf, if_neg hblank, hsplit, List.map_flatMap, List.flatMap_map]
    apply List.flatMap_congr
    intro piece hpiece
    obtain ⟨block, hblock⟩ := h (strip piece) (List.mem_map_of_mem hpiece)
    obtain ⟨before, after, hbefore, hafter, hparts⟩ := exists_of_strip piece
    have hentry := entries_of_entry hblock hbefore hafter
    rwa [← hparts] at hentry

theorem entriesOf_append (hbefore : isBlank before = true) (value : List Char) :
    entriesOf (before ++ value) = entriesOf value := by
  have hblank : isBlank (before ++ value) = isBlank value := by
    rw [isBlank_append, hbefore, Bool.true_and]
  have hcomma : ',' ∉ before := fun hc => absurd (isBlank_iff.mp hbefore _ hc) (by decide)
  obtain ⟨piece, pieces, hvalue, hall⟩ := splitChars_append_of_not_mem hcomma value
  have hstrip : strip (before ++ piece) = strip piece := by
    have hsurrounded := strip_surrounded hbefore (rfl : isBlank [] = true) piece
    rwa [List.append_nil] at hsurrounded
  rw [entriesOf, entriesOf, hblank, hall, hvalue, List.map_cons, List.map_cons, hstrip]

theorem isBlockChar_of_entries
    (h : ∀ entry ∈ entriesOf value, ∃ block, Block.ofChars entry = some block) (hc : c ∈ value) :
    c = ',' ∨ isSpace c = true ∨ isBlockChar c = true := by
  by_cases hblank : isBlank value = true
  · exact .inr (.inl (isBlank_iff.mp hblank c hc))
  · rw [entriesOf, if_neg hblank] at h
    by_cases hcomma : c = ','
    · exact .inl hcomma
    · obtain ⟨piece, hpiece, hcpiece⟩ := (mem_iff_splitChars hcomma).mp hc
      obtain ⟨block, hblock⟩ := h (strip piece) (List.mem_map_of_mem hpiece)
      obtain ⟨before, after, hbefore, hafter, hparts⟩ := exists_of_strip piece
      rw [hparts, List.mem_append, List.mem_append] at hcpiece
      obtain (hcbefore | hcentry) | hcafter := hcpiece
      · exact .inr (.inl (isBlank_iff.mp hbefore c hcbefore))
      · exact .inr (.inr (isBlockChar_of_block hblock hcentry))
      · exact .inr (.inl (isBlank_iff.mp hafter c hcafter))

end

/-! ### What the entries cover -/

def Covered (entries : List (List Char)) (a : Address) : Prop :=
  ∃ entry ∈ entries, ∃ block, Block.ofChars entry = some block ∧ block.Covers a

/-- An entry is spelled such that the text of a default route is found in it. -/
def IsReplaced (entry : List Char) : Prop := defaultIpv4 <:+ entry ∨ defaultIpv6 <:+ entry

/-- The halves that stand for a default route with an address: its own and a fixed one. -/
def halvesOf (entry : List Char) (a : Address) : List Half :=
  [a.half, ⟨if defaultIpv4.isSuffixOf entry then .ipv4 else .ipv6, true⟩]

/-- The coverage of a half survives: other blocks cover it, or the default routes cover it before
if and only if their halves do. -/
def KeepsHalf (entries : List (List Char)) (half : Half) : Prop :=
  (∀ a : Address, a.half = half →
    ∃ entry ∈ entries, ∃ block, Block.ofChars entry = some block ∧ block.length ≠ 0 ∧ block.Covers a) ∨
  ((∃ entry ∈ entries, ∃ block, Block.ofChars entry = some block ∧ block.length = 0 ∧
      block.address.family = half.family) ↔
    ∃ entry ∈ entries, ∃ block, Block.ofChars entry = some block ∧ block.length = 0 ∧
      half ∈ halvesOf entry block.address)

section

variable {entry : List Char} {entries : List (List Char)} {block : Block} {a : Address}

theorem exists_halves {q second : List Char} {family : InternetAddressType}
    (h : Block.ofChars entry = some block) (hsuffix : q ++ ['/', '0'] <:+ entry)
    (hsecond : ((Block.ofChars second).map fun b => (b.length, b.address.half)) =
      some (1, ⟨family, true⟩)) :
    block.length = 0 ∧ ∃ lower upper,
      Block.ofChars (entry.dropLast ++ ['1']) = some lower ∧ lower.length = 1 ∧
      Block.ofChars second = some upper ∧ upper.length = 1 ∧
      [block.address.half, ⟨family, true⟩] = [lower.address.half, upper.address.half] := by
  obtain ⟨upper, hupper, hfacts⟩ := Option.map_eq_some_iff.mp hsecond
  obtain ⟨hlength, hhalf⟩ := Prod.mk.inj hfacts
  obtain ⟨u, rfl, hslash, haddress, hzero⟩ := exists_of_found h hsuffix.isInfix
  have htext : (u ++ (q ++ ['/', '0'])).dropLast ++ ['1'] = (u ++ q) ++ ['/', '1'] := by
    rw [← List.append_assoc, List.dropLast_append_of_ne_nil (by simp)]
    simp
  rw [htext]
  exact ⟨hzero, _, upper, Block.ofChars_half haddress hslash, rfl, hupper, hlength, by rw [hhalf]⟩

/-- **An entry.** It stays, or it is a default route and becomes two halves. -/
theorem rewriteEntry_cases (h : Block.ofChars entry = some block) :
    (¬IsReplaced entry ∧ rewriteEntry entry = [entry]) ∨
      (IsReplaced entry ∧ block.length = 0 ∧
        ∃ first second lower upper, rewriteEntry entry = [first, second] ∧
          Block.ofChars first = some lower ∧ lower.length = 1 ∧
          Block.ofChars second = some upper ∧ upper.length = 1 ∧
          halvesOf entry block.address = [lower.address.half, upper.address.half]) := by
  by_cases hipv4 : defaultIpv4 <:+ entry
  · right
    have htest : defaultIpv4.isSuffixOf entry = true := List.isSuffixOf_iff_suffix.mpr hipv4
    have hupper : ((Block.ofChars "128.0.0.0/1".toList).map fun b => (b.length, b.address.half)) =
        some (1, ⟨.ipv4, true⟩) := by decide +kernel
    obtain ⟨hzero, lower, upper, hlower, hlowerLength, hupper, hupperLength, hhalves⟩ :=
      exists_halves (q := "0.0.0.0".toList) h hipv4 hupper
    refine ⟨.inl hipv4, hzero, _, _, lower, upper, ?_, hlower, hlowerLength, hupper, hupperLength, ?_⟩
    · rw [rewriteEntry, if_pos htest]
    · rw [halvesOf, if_pos htest, hhalves]
  · have htest : ¬defaultIpv4.isSuffixOf entry = true :=
      fun hsuffix => hipv4 (List.isSuffixOf_iff_suffix.mp hsuffix)
    by_cases hipv6 : defaultIpv6 <:+ entry
    · right
      have htest6 : defaultIpv6.isSuffixOf entry = true := List.isSuffixOf_iff_suffix.mpr hipv6
      have hupper : ((Block.ofChars "8000::/1".toList).map fun b => (b.length, b.address.half)) =
          some (1, ⟨.ipv6, true⟩) := by decide +kernel
      obtain ⟨hzero, lower, upper, hlower, hlowerLength, hupper, hupperLength, hhalves⟩ :=
        exists_halves (q := "::".toList) h hipv6 hupper
      refine ⟨.inr hipv6, hzero, _, _, lower, upper, ?_, hlower, hlowerLength, hupper, hupperLength, ?_⟩
      · rw [rewriteEntry, if_neg htest, if_pos htest6]
      · rw [halvesOf, if_neg htest, hhalves]
    · left
      refine ⟨not_or.mpr ⟨hipv4, hipv6⟩, ?_⟩
      rw [rewriteEntry, if_neg htest, if_neg fun hsuffix => hipv6 (List.isSuffixOf_iff_suffix.mp hsuffix)]

/-- What an entry became are blocks; they are no default routes if it was none or was found. -/
theorem rewriteEntry_blocks (h : Block.ofChars entry = some block) :
    (∀ e ∈ rewriteEntry entry, ∃ b, Block.ofChars e = some b) ∧
      ((∀ e ∈ rewriteEntry entry, ∀ b, Block.ofChars e = some b → b.length ≠ 0) ↔
        (block.length = 0 → IsReplaced entry)) := by
  obtain ⟨hstays, heq⟩ | ⟨hreplaced, -, first, second, lower, upper, heq, hlower, hlowerLength, hupper,
    hupperLength, -⟩ := rewriteEntry_cases h
  · rw [heq]
    constructor
    · intro e he
      rw [List.mem_singleton.mp he]
      exact ⟨block, h⟩
    · constructor
      · intro hall hzero
        exact absurd hzero (hall entry List.mem_cons_self block h)
      · intro hdefault e he b hb hzero
        rw [List.mem_singleton.mp he, h] at hb
        cases hb
        exact hstays (hdefault hzero)
  · have hmem : ∀ e ∈ rewriteEntry entry, ∃ b, Block.ofChars e = some b ∧ b.length = 1 := by
      rw [heq]
      intro e he
      obtain rfl | he := List.mem_cons.mp he
      · exact ⟨lower, hlower, hlowerLength⟩
      · rw [List.mem_singleton.mp he]
        exact ⟨upper, hupper, hupperLength⟩
    constructor
    · intro e he
      obtain ⟨b, hb, -⟩ := hmem e he
      exact ⟨b, hb⟩
    · refine iff_of_true ?_ fun _ => hreplaced
      intro e he b hb hzero
      obtain ⟨b', hb', hone⟩ := hmem e he
      rw [hb] at hb'
      cases hb'
      omega

theorem covered_rewriteEntry (h : Block.ofChars entry = some block)
    (hdefault : block.length = 0 → IsReplaced entry) :
    Covered (rewriteEntry entry) a ↔
      (block.length ≠ 0 ∧ block.Covers a) ∨
        (block.length = 0 ∧ a.half ∈ halvesOf entry block.address) := by
  obtain ⟨hstays, heq⟩ | ⟨-, hzero, first, second, lower, upper, heq, hlower, hlowerLength, hupper,
    hupperLength, hhalves⟩ := rewriteEntry_cases h
  · have hlength : block.length ≠ 0 := fun hzero => hstays (hdefault hzero)
    simp [Covered, heq, h, hlength]
  · simp [Covered, heq, hlower, hupper, hzero, hhalves, Block.covers_of_length_one hlowerLength,
      Block.covers_of_length_one hupperLength]

/-- **The entries of a peer.** Where every default route is found, the coverage is the same if and only if
every half keeps its own. -/
theorem covered_flatMap_iff (hblocks : ∀ entry ∈ entries, ∃ block, Block.ofChars entry = some block)
    (hdefault : ∀ entry ∈ entries, ∀ block, Block.ofChars entry = some block → block.length = 0 →
      IsReplaced entry) :
    (∀ a, Covered entries a ↔ Covered (entries.flatMap rewriteEntry) a) ↔
      ∀ half, KeepsHalf entries half := by
  refine forall_iff_iff_part (fun a => ?_) fun a => ?_
  · constructor
    · rintro ⟨entry, hentry, block, hblock, hcovers⟩
      by_cases hzero : block.length = 0
      · rw [Block.covers_of_length_zero hzero] at hcovers
        exact .inr ⟨entry, hentry, block, hblock, hzero, hcovers.symm⟩
      · exact .inl ⟨entry, hentry, block, hblock, hzero, hcovers⟩
    · rintro (⟨entry, hentry, block, hblock, -, hcovers⟩ | ⟨entry, hentry, block, hblock, hzero, hfamily⟩)
      · exact ⟨entry, hentry, block, hblock, hcovers⟩
      · exact ⟨entry, hentry, block, hblock, (Block.covers_of_length_zero hzero).mpr hfamily.symm⟩
  · have hall : Covered (entries.flatMap rewriteEntry) a ↔
        ∃ entry ∈ entries, Covered (rewriteEntry entry) a := by
      simp only [Covered, List.mem_flatMap]
      grind
    rw [hall]
    constructor
    · rintro ⟨entry, hentry, hcovered⟩
      obtain ⟨block, hblock⟩ := hblocks entry hentry
      rw [covered_rewriteEntry hblock (hdefault entry hentry block hblock)] at hcovered
      obtain ⟨hlength, hcovers⟩ | ⟨hzero, hhalf⟩ := hcovered
      · exact .inl ⟨entry, hentry, block, hblock, hlength, hcovers⟩
      · exact .inr ⟨entry, hentry, block, hblock, hzero, hhalf⟩
    · rintro (⟨entry, hentry, block, hblock, hcovers⟩ | ⟨entry, hentry, block, hblock, hhalf⟩)
      · exact ⟨entry, hentry,
          (covered_rewriteEntry hblock (hdefault entry hentry block hblock)).mpr (.inl hcovers)⟩
      · exact ⟨entry, hentry,
          (covered_rewriteEntry hblock (hdefault entry hentry block hblock)).mpr (.inr hhalf)⟩

end

end WindowsAwgTunnelService

end Failover
