import Router1.Awg.Backend
import Router1.Dart.LinkedMap

/-!
# The statistics of a tunnel

A device reports its settings and its counters as lines. `getStatistics` reads the counters of each peer in one pass
over the lines; a line `public_key` begins a peer. `getLastHandshake` takes the first time it finds.
-/

namespace Awg

open Dart Text

/-- A `long` after an operation that may overflow. -/
def wrapLong (value : Int) : Int := value.bmod (2 ^ 64)

section Lines

variable (P : Platform)

def parseLong (cs : List Char) : Option Int :=
  (signedValue P cs).filter fun value => -9223372036854775808 ≤ value && value ≤ 9223372036854775807

/-- `split("\\n")`: empty lines at the end are left out. -/
def reportLines (text : List Char) : List (List Char) :=
  if '\n' ∈ text then (text.splitOn '\n').rdropWhile List.isEmpty else [text]

structure PeerStats where
  rxBytes : Int
  txBytes : Int
  latestHandshakeEpochMillis : Int
  deriving DecidableEq, Repr

def PeerStats.zero : PeerStats := ⟨0, 0, 0⟩

/-- The kinds of lines that are read. -/
inductive Counter where
  | rx
  | tx
  | seconds
  | nanoseconds
  deriving DecidableEq

def Counter.start : Counter → List Char
  | rx => "rx_bytes=".toList
  | tx => "tx_bytes=".toList
  | seconds => "last_handshake_time_sec=".toList
  | nanoseconds => "last_handshake_time_nsec=".toList

def Counter.all : List Counter := [rx, tx, seconds, nanoseconds]

/-- The kind of a line, as the branches of the loop find it. -/
def counterOf (line : List Char) : Option Counter :=
  Counter.all.find? fun counter => counter.start.isPrefixOf line

/-- The number in a line of a kind. -/
def Counter.value (counter : Counter) (line : List Char) : Option Int :=
  parseLong P (line.drop counter.start.length)

/-- A counter of the current peer; a number that cannot be read makes it 0. -/
def PeerStats.count (s : PeerStats) (line : List Char) : Counter → PeerStats
  | .rx => { s with rxBytes := (Counter.rx.value P line).getD 0 }
  | .tx => { s with txBytes := (Counter.tx.value P line).getD 0 }
  | .seconds =>
      { s with latestHandshakeEpochMillis :=
          ((Counter.seconds.value P line).map fun value =>
            wrapLong (s.latestHandshakeEpochMillis + wrapLong (value * 1000))).getD 0 }
  | .nanoseconds =>
      { s with latestHandshakeEpochMillis :=
          ((Counter.nanoseconds.value P line).map fun value =>
            wrapLong (s.latestHandshakeEpochMillis + value.tdiv 1000000)).getD 0 }

def keyStart : List Char := "public_key=".toList

def beginsPeer (line : List Char) : Bool := keyStart.isPrefixOf line

/-- The key of a line `public_key`. -/
def peerKey (line : List Char) : Option Key := (Key.fromHex (toCharArray (line.drop keyStart.length))).toOption

/-- `Statistics`: the counters of the peers, by their keys. -/
abbrev Statistics := List (Key × PeerStats)

/-- The variables of the loop. -/
structure Reading where
  key : Option Key
  counters : PeerStats
  stats : Statistics

/-- The counters of the current peer are kept. -/
def Reading.add (r : Reading) : Statistics :=
  match r.key with
  | some key => put key r.counters r.stats
  | none => r.stats

def Reading.readLine (r : Reading) (line : List Char) : Reading :=
  if beginsPeer line then ⟨peerKey line, .zero, r.add⟩
  else
    match counterOf line with
    | some counter => if r.key = none then r else { r with counters := r.counters.count P line counter }
    | none => r

/-- The loop of `getStatistics`. -/
def statisticsOf (text : List Char) : Statistics :=
  ((reportLines text).foldl (Reading.readLine P) ⟨none, .zero, []⟩).add

/-- The loop of `getLastHandshake`. -/
def lastHandshakeOf (text : List Char) : Int :=
  match (reportLines text).find? fun line => Counter.seconds.start.isPrefixOf line with
  | some line => (Counter.seconds.value P line).getD (-2)
  | none => -1

/-! ### The peers of a report -/

/-- The counters in the lines of a peer. -/
def PeerStats.readLine (s : PeerStats) (line : List Char) : PeerStats :=
  match counterOf line with
  | some counter => s.count P line counter
  | none => s

def PeerStats.read (lines : List (List Char)) : PeerStats := lines.foldl (PeerStats.readLine P) .zero

/-- The entries of a report, one for each peer with a key that can be read. -/
def reportEntries (lines : List (List Char)) : Statistics :=
  (group beginsPeer lines).2.filterMap fun g => (peerKey g.1).map fun key => (key, PeerStats.read P g.2)

/-- The counters of a peer whose key was not read are left out. -/
def readMore (current : Option Key × PeerStats) (line : List Char) : Option Key × PeerStats :=
  if current.1 = none then current else (current.1, current.2.readLine P line)

def addCurrent (stats : Statistics) (current : Option Key × PeerStats) : Statistics :=
  (Reading.mk current.1 current.2 stats).add

variable {P}

/-- The variables of the loop, those of the current peer first. -/
def readingOf (s : (Option Key × PeerStats) × Statistics) : Reading := ⟨s.1.1, s.1.2, s.2⟩

theorem readLine_readingOf (s : (Option Key × PeerStats) × Statistics) (line : List Char) :
    Reading.readLine P (readingOf s) line =
      readingOf (groupLoop beginsPeer (fun line => (peerKey line, PeerStats.zero)) (readMore P) addCurrent s line) := by
  obtain ⟨⟨key, counters⟩, stats⟩ := s
  rw [Reading.readLine, groupLoop]
  cases hbegins : beginsPeer line with
  | true => rfl
  | false =>
      rw [if_neg Bool.false_ne_true, if_neg Bool.false_ne_true]
      simp only [readingOf, readMore, PeerStats.readLine]
      cases counterOf line with
      | none => cases key <;> rfl
      | some counter => cases key <;> rfl

theorem foldl_readMore_none (lines : List (List Char)) (counters : PeerStats) :
    lines.foldl (readMore P) (none, counters) = (none, counters) := by
  induction lines with
  | nil => rfl
  | cons line lines ih => exact ih

theorem foldl_readMore_some (key : Key) (lines : List (List Char)) (counters : PeerStats) :
    lines.foldl (readMore P) (some key, counters) = (some key, lines.foldl (PeerStats.readLine P) counters) := by
  induction lines generalizing counters with
  | nil => rfl
  | cons line lines ih => exact ih _

theorem foldl_addCurrent (groups : List (List Char × List (List Char))) (stats : Statistics) :
    groups.foldl (fun stats g => addCurrent stats (g.2.foldl (readMore P) (peerKey g.1, .zero))) stats =
      (groups.filterMap fun g => (peerKey g.1).map fun key => (key, PeerStats.read P g.2)).foldl
        (fun result entry => put entry.1 entry.2 result) stats := by
  induction groups generalizing stats with
  | nil => rfl
  | cons g groups ih =>
      rw [List.foldl_cons, ih]
      cases hkey : peerKey g.1 with
      | none =>
          rw [List.filterMap_cons_none (by rw [hkey]; rfl), foldl_readMore_none]
          rfl
      | some key =>
          rw [List.filterMap_cons_some (by rw [hkey]; rfl), foldl_readMore_some]
          rfl

/-- The statistics of a report hold its entries, a later one in the place of an earlier one with the same key. -/
theorem statisticsOf_eq (text : List Char) : statisticsOf P text = ofEntries (reportEntries P (reportLines text)) := by
  have hloop : (reportLines text).foldl (Reading.readLine P) (readingOf ((none, .zero), [])) =
      readingOf ((reportLines text).foldl (groupLoop beginsPeer (fun line => (peerKey line, PeerStats.zero))
        (readMore P) addCurrent) ((none, .zero), [])) :=
    List.foldl_hom readingOf readLine_readingOf
  have hgroups := foldl_groupLoop beginsPeer (fun line => (peerKey line, PeerStats.zero)) (readMore P) addCurrent
    (reportLines text) (none, .zero) []
  rw [foldl_readMore_none, foldl_addCurrent] at hgroups
  have hstart : statisticsOf P text =
      ((reportLines text).foldl (Reading.readLine P) (readingOf ((none, .zero), []))).add := rfl
  rw [hstart, hloop]
  exact hgroups

theorem read_concat (lines : List (List Char)) (line : List Char) :
    PeerStats.read P (lines ++ [line]) = (PeerStats.read P lines).readLine P line := by
  rw [PeerStats.read, List.foldl_append]
  rfl

/-- The last line of a kind. -/
def lastOf (counter : Counter) (lines : List (List Char)) : Option (List Char) :=
  (lines.filter fun line => counterOf line = some counter).getLast?

theorem lastOf_concat (counter : Counter) (lines : List (List Char)) (line : List Char) :
    lastOf counter (lines ++ [line]) = if counterOf line = some counter then some line else lastOf counter lines := by
  rw [lastOf, List.filter_append]
  split
  next h => rw [List.filter_cons_of_pos (by simpa using h), List.filter_nil, List.getLast?_concat]
  next h =>
    rw [List.filter_cons_of_neg (by simpa using h), List.filter_nil, List.append_nil]
    rfl

theorem bytes_read (lines : List (List Char)) :
    (PeerStats.read P lines).rxBytes = ((lastOf .rx lines).bind (Counter.rx.value P)).getD 0 ∧
      (PeerStats.read P lines).txBytes = ((lastOf .tx lines).bind (Counter.tx.value P)).getD 0 := by
  induction lines using List.reverseRecOn with
  | nil => exact ⟨rfl, rfl⟩
  | append_singleton lines line ih =>
      rw [read_concat, lastOf_concat, lastOf_concat, PeerStats.readLine]
      cases counterOf line with
      | none => exact ih
      | some counter =>
          cases counter with
          | rx => exact ⟨rfl, ih.2⟩
          | tx => exact ⟨ih.1, rfl⟩
          | seconds => exact ih
          | nanoseconds => exact ih

variable (P) in
/-- The milliseconds that a line adds; nothing, if its number cannot be read. -/
def millis (line : List Char) : Option Int :=
  match counterOf line with
  | some .seconds => (Counter.seconds.value P line).map fun value => value * 1000
  | some .nanoseconds => (Counter.nanoseconds.value P line).map fun value => value.tdiv 1000000
  | _ => some 0

theorem wrapLong_add (a b : Int) : wrapLong (wrapLong a + b) = wrapLong (a + b) := Int.bmod_add_bmod

theorem wrapLong_add_wrapLong (a b : Int) : wrapLong (a + wrapLong b) = wrapLong (a + b) := Int.add_bmod_bmod

theorem time_readLine {s : PeerStats} {line : List Char} {n m : Int}
    (hs : s.latestHandshakeEpochMillis = wrapLong n) (h : millis P line = some m) :
    (s.readLine P line).latestHandshakeEpochMillis = wrapLong (n + m) := by
  rw [millis] at h
  rw [PeerStats.readLine]
  split at h
  next hcounter =>
    obtain ⟨value, hvalue, rfl⟩ := Option.map_eq_some_iff.mp h
    rw [hcounter]
    simp only [PeerStats.count, hvalue, hs, Option.map_some, Option.getD_some]
    rw [wrapLong_add, wrapLong_add_wrapLong]
  next hcounter =>
    obtain ⟨value, hvalue, rfl⟩ := Option.map_eq_some_iff.mp h
    rw [hcounter]
    simp only [PeerStats.count, hvalue, hs, Option.map_some, Option.getD_some]
    rw [wrapLong_add]
  next hseconds hnanoseconds =>
    cases h
    rw [Int.add_zero, ← hs]
    split
    next counter hcounter =>
      cases counter with
      | rx => rfl
      | tx => rfl
      | seconds => exact absurd hcounter hseconds
      | nanoseconds => exact absurd hcounter hnanoseconds
    next => rfl

theorem time_readLine_of_none {line : List Char} (h : millis P line = none) (s : PeerStats) :
    (s.readLine P line).latestHandshakeEpochMillis = 0 := by
  rw [millis] at h
  rw [PeerStats.readLine]
  split at h
  next hcounter =>
    rw [hcounter]
    simp only [PeerStats.count, Option.map_eq_none_iff.mp h]
    rfl
  next hcounter =>
    rw [hcounter]
    simp only [PeerStats.count, Option.map_eq_none_iff.mp h]
    rfl
  next => cases h

theorem time_foldl {lines : List (List Char)} {s : PeerStats} {n : Int} {ms : List Int}
    (hs : s.latestHandshakeEpochMillis = wrapLong n) (h : lines.mapM (millis P) = some ms) :
    (lines.foldl (PeerStats.readLine P) s).latestHandshakeEpochMillis = wrapLong (n + ms.sum) := by
  induction lines generalizing s n ms with
  | nil =>
      cases h
      rw [List.reverse_nil, List.sum_nil, Int.add_zero]
      exact hs
  | cons line lines ih =>
      rw [List.mapM_cons] at h
      obtain ⟨m, hm, h⟩ := Option.bind_eq_some_iff.mp h
      obtain ⟨rest, hrest, h⟩ := Option.bind_eq_some_iff.mp h
      cases h
      rw [List.foldl_cons, ih (time_readLine hs hm) hrest, List.sum_cons, Int.add_assoc]

theorem time_read {lines : List (List Char)} {ms : List Int} (h : lines.mapM (millis P) = some ms) :
    (PeerStats.read P lines).latestHandshakeEpochMillis = wrapLong ms.sum ∧
      ∀ before line, millis P line = none →
        (PeerStats.read P (before ++ line :: lines)).latestHandshakeEpochMillis = wrapLong ms.sum := by
  refine ⟨?_, fun before line hline => ?_⟩
  · rw [PeerStats.read, time_foldl (n := 0) rfl h, Int.zero_add]
  · rw [PeerStats.read, List.foldl_append, List.foldl_cons, time_foldl (n := 0) (time_readLine_of_none hline _) h,
      Int.zero_add]

/-- **The statistics of a report.** Each peer has the counters of its own lines: the bytes of the last line about
them, and as its time the sum of its times after the last one that cannot be read. Lines before the first peer and
lines of a peer whose key cannot be read count for nobody. -/
theorem statistics_of_report (text : List Char) :
    statisticsOf P text = ofEntries (reportEntries P (reportLines text)) ∧
      ∀ lines, (PeerStats.read P lines).rxBytes = ((lastOf .rx lines).bind (Counter.rx.value P)).getD 0 ∧
        (PeerStats.read P lines).txBytes = ((lastOf .tx lines).bind (Counter.tx.value P)).getD 0 ∧
        ∀ ms, lines.mapM (millis P) = some ms →
          (PeerStats.read P lines).latestHandshakeEpochMillis = wrapLong ms.sum ∧
            ∀ before line, millis P line = none →
              (PeerStats.read P (before ++ line :: lines)).latestHandshakeEpochMillis = wrapLong ms.sum :=
  ⟨statisticsOf_eq text, fun lines => ⟨(bytes_read lines).1, (bytes_read lines).2, fun _ h => time_read h⟩⟩

end Lines

/-! ### The status of a tunnel -/

def awgGetConfig (handles : TunnelHandles TunnelHandle) (handle : Int) (ipcGet : TunnelHandle → Option (List Char)) :
    Option (List Char) :=
  (handles handle).bind ipcGet

def Statistics.totalRx (stats : Statistics) : Int :=
  stats.foldl (fun rx entry => wrapLong (rx + entry.2.rxBytes)) 0

def Statistics.totalTx (stats : Statistics) : Int :=
  stats.foldl (fun tx entry => wrapLong (tx + entry.2.txBytes)) 0

namespace Backend

variable {P : Platform} {getName : Nat → List Char} {configs : Nat → Config P}

variable (P) in
/-- `getStatistics`, with what the devices report. -/
def getStatistics (b : Backend) (tunnel : Nat) (ipcGet : TunnelHandle → Option (List Char)) : Statistics :=
  if b.currentTunnel ≠ some tunnel ∨ b.currentTunnelHandle = -1 then []
  else
    match awgGetConfig b.tunnelHandles b.currentTunnelHandle ipcGet with
    | none => []
    | some text => statisticsOf P text

variable (P) in
def getLastHandshake (b : Backend) (tunnel : Nat) (ipcGet : TunnelHandle → Option (List Char)) : Int :=
  if b.currentTunnel ≠ some tunnel ∨ b.currentTunnelHandle = -1 then -3
  else
    match awgGetConfig b.tunnelHandles b.currentTunnelHandle ipcGet with
    | none => -2
    | some text => lastHandshakeOf P text

/-- What the app is told about a tunnel. -/
structure Status where
  state : State
  handshake : Int
  rx : Int
  tx : Int
  deriving DecidableEq

variable (P) in
/-- The answer to `status`. -/
def status (b : Backend) (tunnel : Nat) (ipcGet : TunnelHandle → Option (List Char)) : Status where
  state := b.getState tunnel
  handshake := b.getLastHandshake P tunnel ipcGet
  rx := (b.getStatistics P tunnel ipcGet).totalRx
  tx := (b.getStatistics P tunnel ipcGet).totalTx

variable (P) in
def Status.ofReport : Option (List Char) → Status
  | none => ⟨.up, -2, 0, 0⟩
  | some text =>
      ⟨.up, lastHandshakeOf P text, Statistics.totalRx (ofEntries (reportEntries P (reportLines text))),
        Statistics.totalTx (ofEntries (reportEntries P (reportLines text)))⟩

theorem status_of_up {b : Backend} {tunnel : Nat} {device : TunnelHandle} (hcurrent : b.currentTunnel = some tunnel)
    (hhandle : b.currentTunnelHandle = 0) (hdevice : b.tunnelHandles 0 = some device)
    (ipcGet : TunnelHandle → Option (List Char)) :
    b.status P tunnel ipcGet = Status.ofReport P (ipcGet device) := by
  have hup : ¬ (b.currentTunnel ≠ some tunnel ∨ b.currentTunnelHandle = -1) := by
    rw [hcurrent, hhandle]
    rintro (h | h)
    · exact h rfl
    · cases h
  have hconfig : awgGetConfig b.tunnelHandles b.currentTunnelHandle ipcGet = ipcGet device := by
    rw [awgGetConfig, hhandle, hdevice]
    rfl
  rw [status, getState, if_pos hcurrent, getLastHandshake, if_neg hup, getStatistics, if_neg hup, hconfig]
  cases ipcGet device with
  | none => rfl
  | some text =>
      simp only [statisticsOf_eq]
      rfl

theorem status_of_other {b : Backend} {tunnel : Nat} (hother : b.currentTunnel ≠ some tunnel)
    (ipcGet : TunnelHandle → Option (List Char)) : b.status P tunnel ipcGet = ⟨.down, -3, 0, 0⟩ := by
  rw [status, getState, if_neg hother, getLastHandshake, if_pos (.inl hother), getStatistics,
    if_pos (.inl hother)]
  rfl

/-- **The status of a tunnel.** In every state that a run over configs that were read leads to, what the app is told
about a tunnel comes from the device that serves the current config; about any tunnel that is not the current one it
is told that it is down. -/
theorem status_of_run (hconfigs : WereRead configs) (events : List (Event P)) (tunnel : Nat)
    (ipcGet : TunnelHandle → Option (List Char)) :
    ((run getName configs events).currentTunnel ≠ some tunnel ∧
        (run getName configs events).status P tunnel ipcGet = ⟨.down, -3, 0, 0⟩) ∨
      ∃ config settings, (run getName configs events).currentTunnel = some tunnel ∧
        (run getName configs events).currentConfig = some config ∧ Serves (configs config) settings ∧
        (run getName configs events).status P tunnel ipcGet =
          Status.ofReport P (ipcGet ⟨getName tunnel, settings⟩) := by
  have hparsed := parsed_of_wereRead hconfigs
  have hrun : (run getName configs events).Ok getName configs := run_ok hparsed events
  by_cases hcurrent : (run getName configs events).currentTunnel = some tunnel
  · obtain ⟨config, hup⟩ := hrun.up_of_tunnel hcurrent
    obtain ⟨settings, hstarted, hhandles⟩ := hup.tunnelHandles
    refine .inr ⟨config, settings, hcurrent, hup.currentConfig, hstarted.serves (hparsed config), ?_⟩
    refine status_of_up hcurrent hup.currentTunnelHandle ?_ ipcGet
    rw [hhandles, Function.update_self]
  · exact .inl ⟨hcurrent, status_of_other hcurrent ipcGet⟩

theorem sample_status_of_run : ∃ c : Config ascii, WereRead (fun _ => c) ∧
    ((run (fun _ => "Router1".toList) (fun _ => c) sampleEvents).status ascii 0 fun _ => none) = ⟨.up, -2, 0, 0⟩ := by
  obtain ⟨c, hread, hup⟩ := sample_wereRead
  refine ⟨c, hread, ?_⟩
  have hrun := @status_of_run ascii (fun _ => "Router1".toList) (fun _ => c) hread sampleEvents 0 fun _ => none
  rcases hrun with ⟨hother, -⟩ | ⟨config, settings, -, -, -, hstatus⟩
  · exact absurd hup hother
  · exact hstatus

end Backend

end Awg
