import Router1.Failover.Windows
import Router1.Remote.Program

/-!
# The tunnel service on Windows

`WindowsAwgTunnelService.connect` and `disconnect` over a service that is absent, stopped or running with
the text the config file held when it was installed. What `sc.exe` prints about the service is up to the run:
nothing makes its answers tell the state of the service, and `status` may take a service for running that is not.
`connect` writes the file first and replaces the service afterwards, and what it later finds in the file it takes
for what the service runs. A call that has changed the file and could not remove the old service therefore makes
the next one report a connection that runs another config; `Replaces` excludes such calls and such answers.
-/

namespace Failover

open Remote

/-! ### The config on Windows -/

/-- `replaceAll` of a text: the matches are taken from the left and do not overlap. The first argument
counts the characters of a match that are still to be passed over. -/
def replaceAllChars (pattern replacement : List Char) : Nat → List Char → List Char
  | _, [] => []
  | skip + 1, _ :: cs => replaceAllChars pattern replacement skip cs
  | 0, c :: cs =>
      if pattern.isPrefixOf (c :: cs) then
        replacement ++ replaceAllChars pattern replacement (pattern.length - 1) cs
      else c :: replaceAllChars pattern replacement 0 cs

namespace WindowsAwgTunnelService

/-- The characters that `.` of a pattern does not match and behind which `^` does. -/
def isLineTerminator (c : Char) : Bool :=
  c == '\n' || c == '\r' || c.toNat == 0x2028 || c.toNat == 0x2029

def lowerAscii (c : Char) : Char :=
  if 0x41 ≤ c.toNat && c.toNat ≤ 0x5A then Char.ofNat (c.toNat + 32) else c

/-- What follows a word in lower case, if the text starts with it in some case. -/
def afterWord : List Char → List Char → Option (List Char)
  | [], cs => some cs
  | _ :: _, [] => none
  | w :: word, c :: cs => if lowerAscii c == w then afterWord word cs else none

/-- `\s*(.+)$` at the start, with what is left behind it. White space up to the end of the text gives back
its last character that is not a line terminator. -/
def valueAt (cs : List Char) : Option (List Char × List Char) :=
  match cs.dropWhile isSpace with
  | [] =>
      match cs.reverse.span isLineTerminator with
      | (_, []) => none
      | (terminators, c :: _) => some ([c], terminators.reverse)
  | rest => some (rest.span fun c => !isLineTerminator c)

/-- `\s*AllowedIPs\s*=\s*(.+)$` at the start, in any case. -/
def allowedIpsAt (cs : List Char) : Option (List Char × List Char) :=
  match afterWord "allowedips".toList (cs.dropWhile isSpace) with
  | none => none
  | some rest =>
      match rest.dropWhile isSpace with
      | '=' :: rest => valueAt rest
      | _ => none

/-- Halves of the default routes, which do not turn on the kill switch of the engine. -/
def splitDefaultRoutes (value : List Char) : List Char :=
  replaceAllChars "::/0".toList "::/1, 8000::/1".toList 0
    (replaceAllChars "0.0.0.0/0".toList "0.0.0.0/1, 128.0.0.0/1".toList 0 value)

/-- The lines of the allowed addresses, rewritten. The arguments count the characters of a match still to
be passed over and tell whether a line starts. -/
def rewriteAllowedIps : Nat → Bool → List Char → List Char
  | _, _, [] => []
  | skip + 1, _, _ :: cs => rewriteAllowedIps skip false cs
  | 0, lineStart, c :: cs =>
      match if lineStart then allowedIpsAt (c :: cs) else none with
      | some (value, rest) =>
          "AllowedIPs = ".toList ++ splitDefaultRoutes value ++
            rewriteAllowedIps (cs.length - rest.length) false cs
      | none => c :: rewriteAllowedIps 0 (isLineTerminator c) cs

def windowsConfig (config : String) : String :=
  String.ofList (rewriteAllowedIps 0 true config.toList)

def accepts (config : String) : Bool :=
  Dart.contains config "[Interface]" && Dart.contains config "[Peer]"

example : windowsConfig "[Peer]\nallowedips=0.0.0.0/0, ::/0\nEndpoint = a" =
    "[Peer]\nAllowedIPs = 0.0.0.0/1, 128.0.0.0/1, ::/1, 8000::/1\nEndpoint = a" := by decide +kernel

end WindowsAwgTunnelService

/-! ### The service -/

inductive TunnelService where
  | absent
  | stopped (config : String)
  | running (config : String)
  deriving DecidableEq, Repr

def TunnelService.config : TunnelService → Option String
  | absent => none
  | stopped config => some config
  | running config => some config

/-- What `/installtunnelservice` does. -/
inductive Installation where
  | fails (stderr : String)
  | stops
  | runs
  deriving DecidableEq, Repr

/-- What `sc.exe query` prints for a service it does not know. -/
def unknownService : ProcessResult := ⟨1060, "", "The specified service does not exist."⟩

/-- What the commands of one call do: the answers of `sc.exe` to its queries in their order, those after a removal
in `polls`, whether the removal of a service fails, and how the installation ends. -/
structure Commands where
  executable : Bool := true
  stats : Int × Int := (0, 0)
  current : ProcessResult := unknownService
  present : ProcessResult := unknownService
  polls : List ProcessResult := []
  result : ProcessResult := unknownService
  uninstallFails : Bool := false
  install : Installation := .runs
  deriving DecidableEq, Repr

structure Desktop where
  file : Option String
  service : TunnelService
  deriving DecidableEq, Repr

namespace Desktop

open WindowsAwgTunnelService (windowsConfig accepts status)

/-- `_writeConfig`, and whether the file was another one before. -/
def writeConfig (d : Desktop) (config : String) : Except String (Desktop × Bool) :=
  if accepts config then
    .ok ({ d with file := some (windowsConfig config) }, d.file != some (windowsConfig config))
  else .error "Получен некорректный конфиг."

/-- The polls for a removed service, with the answers as long as it is listed. -/
def waitGone : Nat → List ProcessResult → Bool
  | 0, _ => false
  | _ + 1, [] => true
  | attempts + 1, answer :: answers => !(status answer (0, 0)).installed || waitGone attempts answers

/-- `_uninstallIfPresent`, with the message it throws. -/
def uninstallIfPresent (d : Desktop) (c : Commands) : Desktop × Option String :=
  if (status c.present c.stats).installed then
    if c.uninstallFails then (d, some "Не удалось выключить предыдущее подключение Router1.")
    else if waitGone 20 c.polls then ({ d with service := .absent }, none)
    else
      ({ d with service := .absent },
        some "Windows ещё завершает предыдущее подключение. Подождите несколько секунд и повторите.")
  else (d, none)

/-- The service at the last query of a call. -/
def installed (d : Desktop) (c : Commands) : TunnelService :=
  match c.install with
  | .fails _ => d.service
  | .stops => .stopped (d.file.getD "")
  | .runs => .running (d.file.getD "")

/-- The last part of `connect`: the service takes the text of the file. -/
def install (d : Desktop) (c : Commands) : Desktop × Except String WindowsAwgTunnelState :=
  let after := status c.result c.stats
  match c.install with
  | .fails stderr =>
      if after.connected then ({ d with service := d.installed c }, .ok after)
      else
        ({ d with service := d.installed c }, .error
          (if Dart.trim stderr = "" then
            "Windows не разрешила включить подключение. Запустите Router1 от имени администратора."
          else Dart.trim stderr))
  | .stops | .runs => ({ d with service := d.installed c }, .ok after)

def connect (d : Desktop) (config : String) (c : Commands) :
    Desktop × Except String WindowsAwgTunnelState :=
  if c.executable = false then
    (d, .error "Компонент подключения Router1 повреждён. Переустановите Router1.")
  else
    match d.writeConfig config with
    | .error message => (d, .error message)
    | .ok (written, changed) =>
        let current := status c.current c.stats
        if current.connected && !changed then (written, .ok current)
        else
          match written.uninstallIfPresent c with
          | (left, some message) => (left, .error message)
          | (left, none) => left.install c

def disconnect (d : Desktop) (c : Commands) : Desktop :=
  if c.executable = false then d else (d.uninstallIfPresent c).1

end Desktop

/-- A call of the app, or the service stopping or starting on its own. -/
inductive DesktopEvent where
  | connect (config : String) (c : Commands)
  | disconnect (c : Commands)
  | stops
  | starts
  deriving DecidableEq, Repr

namespace Desktop

open WindowsAwgTunnelService (windowsConfig accepts status)

def step (d : Desktop) : DesktopEvent → Option Desktop
  | .connect config c => some (d.connect config c).1
  | .disconnect c => some (d.disconnect c)
  | .stops =>
      match d.service with
      | .running config => some { d with service := .stopped config }
      | _ => none
  | .starts =>
      match d.service with
      | .stopped config => some { d with service := .running config }
      | _ => none

def fresh : Desktop where
  file := none
  service := .absent

/-- A connection that the call reports runs its config. -/
def RunsRequested (d : Desktop) (config : String) (c : Commands) : Prop :=
  ∀ state, (d.connect config c).2 = .ok state → state.connected = true →
    (d.connect config c).1.service = .running (windowsConfig config)

/-- `status` takes the answer for that of a running service only if the service runs. -/
def Truthful (service : TunnelService) (answer : ProcessResult) : Prop :=
  (status answer (0, 0)).connected = true → ∃ config, service = .running config

/-- The call is not told of a running service that does not run, and if it changes the file while a service is
installed, it sees that service and removes it. -/
structure Replaces (d : Desktop) (config : String) (c : Commands) : Prop where
  current : Truthful d.service c.current
  result : Truthful ((d.uninstallIfPresent c).1.installed c) c.result
  removes : c.executable = true → accepts config = true → d.service ≠ .absent →
    d.file ≠ some (windowsConfig config) →
    (status c.present (0, 0)).installed = true ∧ c.uninstallFails = false

def AllReplace (d : Desktop) : DesktopEvent → Prop
  | .connect config c => d.Replaces config c
  | _ => True

/-! ### What a call leaves -/

variable {d t : Desktop} {e : DesktopEvent} {config : String} {c : Commands}

/-- The installed service has the text of the file. -/
def Kept (d : Desktop) : Prop := ∀ config, d.service.config = some config → d.file = some config

/-- Only the counters of a running service depend on the statistics. -/
theorem status_stats (answer : ProcessResult) (stats : Int × Int) :
    (status answer stats).connected = (status answer (0, 0)).connected ∧
      (status answer stats).installed = (status answer (0, 0)).installed := by
  rw [status, status]
  split
  · exact ⟨rfl, rfl⟩
  · exact ⟨rfl, rfl⟩

theorem Truthful.running {service : TunnelService} {answer : ProcessResult} (h : Truthful service answer)
    {stats : Int × Int} (hconnected : (status answer stats).connected = true) :
    ∃ config, service = .running config :=
  h ((status_stats answer stats).1 ▸ hconnected)

theorem uninstallIfPresent_left (d : Desktop) (c : Commands) :
    (d.uninstallIfPresent c).1.file = d.file ∧
      ((d.uninstallIfPresent c).1.service = .absent ∨ (d.uninstallIfPresent c).1.service = d.service) := by
  rw [uninstallIfPresent]
  split
  · split
    · exact ⟨rfl, .inr rfl⟩
    · split <;> exact ⟨rfl, .inl rfl⟩
  · exact ⟨rfl, .inr rfl⟩

theorem uninstallIfPresent_service (d : Desktop) (file : Option String) (c : Commands) :
    (uninstallIfPresent { d with file := file } c).1.service = (d.uninstallIfPresent c).1.service := by
  rw [uninstallIfPresent, uninstallIfPresent]
  split
  · split
    · rfl
    · split <;> rfl
  · rfl

theorem uninstallIfPresent_absent (hpresent : (status c.present (0, 0)).installed = true)
    (huninstall : c.uninstallFails = false) : (d.uninstallIfPresent c).1.service = .absent := by
  rw [← (status_stats c.present c.stats).2] at hpresent
  rw [uninstallIfPresent, if_pos hpresent, huninstall, if_neg Bool.false_ne_true]
  split <;> rfl

theorem Kept.uninstallIfPresent (h : Kept d) (c : Commands) : Kept (d.uninstallIfPresent c).1 := by
  obtain ⟨hfile, hservice⟩ := uninstallIfPresent_left d c
  intro config hconfig
  rw [hfile]
  obtain habsent | hsame := hservice
  · rw [habsent] at hconfig
    cases hconfig
  · rw [hsame] at hconfig
    exact h config hconfig

/-- Whatever the last query finds has the text of the file. -/
theorem Kept.installed (h : Kept d) (hfile : d.file = some config) (c : Commands) :
    Kept { d with service := d.installed c } := by
  intro text htext
  have hleft : d.installed c = d.service ∨ (d.installed c).config = d.file := by
    rw [Desktop.installed, hfile]
    cases c.install with
    | fails stderr => exact .inl rfl
    | stops | runs => exact .inr rfl
  obtain hsame | hnew := hleft
  · exact h text ((congrArg TunnelService.config hsame).symm.trans htext)
  · exact hnew.symm.trans htext

theorem Kept.install (h : Kept d) (hfile : d.file = some config) (htruthful : Truthful (d.installed c) c.result) :
    Kept (d.install c).1 ∧
      ∀ state, (d.install c).2 = .ok state → state.connected = true →
        (d.install c).1.service = .running config := by
  have hkept := h.installed hfile c
  have hservice : (status c.result c.stats).connected = true → d.installed c = .running config := by
    intro hconnected
    obtain ⟨text, hrunning⟩ := htruthful.running hconnected
    have htext : d.file = some text := hkept text (by rw [hrunning]; rfl)
    rw [hrunning, Option.some.inj (htext.symm.trans hfile)]
  rw [Desktop.install]
  cases hinstall : c.install with
  | fails stderr =>
      dsimp only
      split
      · next hconnected => exact ⟨hkept, fun _ _ _ => hservice hconnected⟩
      · exact ⟨hkept, nofun⟩
  | stops | runs =>
      refine ⟨hkept, ?_⟩
      rintro _ ⟨⟩ hconnected
      exact hservice hconnected

/-- **One call.** Where the service has the text of the file, a call that replaces it leaves it so and
reports only the requested config as running. -/
theorem Kept.connect (h : Kept d) (hreplaces : d.Replaces config c) :
    Kept (d.connect config c).1 ∧ d.RunsRequested config c := by
  rw [RunsRequested, Desktop.connect]
  by_cases hexecutable : c.executable = false
  · rw [if_pos hexecutable]
    exact ⟨h, nofun⟩
  rw [if_neg hexecutable, writeConfig]
  by_cases haccepts : accepts config = true
  · rw [if_pos haccepts]
    dsimp only
    generalize htext : windowsConfig config = text
    split
    · next hunchanged =>
        rw [Bool.and_eq_true, Bool.not_eq_true', bne_eq_false_iff_eq] at hunchanged
        obtain ⟨hconnected, hfile⟩ := hunchanged
        obtain ⟨running, hrunning⟩ := hreplaces.current.running hconnected
        have hsame : some running = some text := (h running (by rw [hrunning]; rfl)).symm.trans hfile
        refine ⟨fun other hother => ?_, fun _ _ _ => ?_⟩
        · rw [← hfile]
          exact h other hother
        · rw [hrunning, Option.some.inj hsame]
    · -- the service that is left has the new text, or none is left
      have hleft : Kept (Desktop.uninstallIfPresent { d with file := some text } c).1 := by
        by_cases hfile : d.file = some text
        · refine Kept.uninstallIfPresent (fun other hother => ?_) c
          rw [← hfile]
          exact h other hother
        · have habsent : (Desktop.uninstallIfPresent { d with file := some text } c).1.service = .absent := by
            by_cases hservice : d.service = .absent
            · obtain habsent | hsame := (uninstallIfPresent_left { d with file := some text } c).2
              · exact habsent
              · exact hsame.trans hservice
            · rw [← htext] at hfile
              obtain ⟨hpresent, huninstall⟩ :=
                hreplaces.removes (Bool.not_eq_false _ ▸ hexecutable) haccepts hservice hfile
              exact uninstallIfPresent_absent hpresent huninstall
          intro other hother
          rw [habsent] at hother
          cases hother
      have hfile := (uninstallIfPresent_left { d with file := some text } c).1
      split
      · next left message hresult =>
          rw [hresult] at hleft
          exact ⟨hleft, nofun⟩
      · next left hresult =>
          have hservice := uninstallIfPresent_service d (some text) c
          rw [hresult] at hleft hfile hservice
          refine hleft.install hfile fun hconnected => ?_
          -- the text that is installed does not matter for whether the service runs
          obtain ⟨other, hother⟩ := hreplaces.result hconnected
          rw [Desktop.installed] at hother ⊢
          cases hinstall : c.install with
          | fails stderr =>
              rw [hinstall] at hother
              exact ⟨other, hservice.trans hother⟩
          | stops =>
              rw [hinstall] at hother
              cases hother
          | runs => exact ⟨_, rfl⟩
  · rw [if_neg haccepts]
    exact ⟨h, nofun⟩

theorem Kept.step (h : Kept d) (hreplace : d.AllReplace e) (hstep : d.step e = some t) : Kept t := by
  cases e with
  | connect config c =>
      cases hstep
      exact (h.connect hreplace).1
  | disconnect c =>
      cases hstep
      rw [Desktop.disconnect]
      split
      · exact h
      · exact h.uninstallIfPresent c
  | stops =>
      rw [Desktop.step] at hstep
      split at hstep
      · next text hservice =>
          cases hstep
          intro other hother
          exact h other (by rw [hservice]; exact hother)
      · cases hstep
  | starts =>
      rw [Desktop.step] at hstep
      split at hstep
      · next text hservice =>
          cases hstep
          intro other hother
          exact h other (by rw [hservice]; exact hother)
      · cases hstep

end Desktop

end Failover
