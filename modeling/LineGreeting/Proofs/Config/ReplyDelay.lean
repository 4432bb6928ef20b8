import LineGreeting.Proofs.Config.Stages

/-! # The reply delay in milliseconds

The milliseconds of a duration may need more than 64 bits. They are worked out in words of 128
bits, which is always enough, and cut to the largest number of 64 bits at the very end. So a
longer delay never comes to fewer milliseconds, and what an option or a document gives in
milliseconds comes back as it was given.
-/

namespace LineGreeting

open Config

namespace Duration

/-! ## Longer and shorter -/

/-- A duration is at most another by its seconds first, then by its rest. -/
instance : LE Duration where
  le shorter longer := shorter.seconds < longer.seconds ∨
    shorter.seconds = longer.seconds ∧ shorter.nanoseconds ≤ longer.nanoseconds

variable {duration shorter longer : Duration}

theorem le_iff : shorter ≤ longer ↔ shorter.seconds < longer.seconds ∨
    shorter.seconds = longer.seconds ∧ shorter.nanoseconds ≤ longer.nanoseconds :=
  Iff.rfl

theorem millis_le_of_le (hle : shorter ≤ longer) : shorter.millis ≤ longer.millis := by
  have hrest := shorter.nanoseconds_lt
  unfold millis
  rcases le_iff.mp hle with hlt | ⟨heq, hle⟩
  · have hseconds := UInt64.lt_iff_toNat_lt.mp hlt
    omega
  · have hmillis : shorter.nanoseconds / 1000000 ≤ longer.nanoseconds / 1000000 :=
      Nat.div_le_div_right hle
    rw [heq]
    omega

theorem toNat_clampedMillis (duration : Duration) :
    duration.clampedMillis.toNat = min duration.millis (UInt64.size - 1) := by
  rw [clampedMillis, UInt64.toNat_ofNat_of_lt']
  have hpos : 0 < UInt64.size := by decide
  omega

theorem clampedMillis_le_of_le (hle : shorter ≤ longer) :
    shorter.clampedMillis ≤ longer.clampedMillis := by
  rw [UInt64.le_iff_toNat_le, toNat_clampedMillis, toNat_clampedMillis]
  have hmillis := millis_le_of_le hle
  omega

/-! ## Wide words -/

/-- The seconds in a word of 128 bits. -/
def wideSeconds (duration : Duration) : BitVec 128 :=
  duration.seconds.toBitVec.setWidth 128

/-- The milliseconds of the rest in a word of 128 bits. -/
def wideRest (duration : Duration) : BitVec 128 :=
  BitVec.ofNat 128 (duration.nanoseconds / 1000000)

/-- The milliseconds in a word of 128 bits. -/
def wideMillis (duration : Duration) : BitVec 128 :=
  duration.wideSeconds * BitVec.ofNat 128 1000 + duration.wideRest

/-- A word of 128 bits as one of 64, if it fits. -/
def narrow? (wide : BitVec 128) : Option UInt64 :=
  if wide.toNat < UInt64.size then some (.ofNat wide.toNat) else none

theorem toNat_wideSeconds (duration : Duration) :
    duration.wideSeconds.toNat = duration.seconds.toNat := by
  have hlt := duration.seconds.toNat_lt_size
  rw [UInt64.size] at hlt
  rw [wideSeconds, BitVec.toNat_setWidth, UInt64.toNat_toBitVec]
  omega

theorem toNat_wideRest (duration : Duration) :
    duration.wideRest.toNat = duration.nanoseconds / 1000000 := by
  have hlt := duration.nanoseconds_lt
  rw [wideRest, BitVec.toNat_ofNat]
  omega

theorem umulOverflow_wideSeconds (duration : Duration) :
    duration.wideSeconds.umulOverflow (BitVec.ofNat 128 1000) = false := by
  have hlt := duration.seconds.toNat_lt_size
  rw [UInt64.size] at hlt
  simp only [BitVec.umulOverflow, toNat_wideSeconds, BitVec.toNat_ofNat, decide_eq_false_iff_not]
  omega

theorem toNat_wideSeconds_mul (duration : Duration) :
    (duration.wideSeconds * BitVec.ofNat 128 1000).toNat = duration.seconds.toNat * 1000 := by
  rw [BitVec.toNat_mul_of_not_umulOverflow (by simp [umulOverflow_wideSeconds]), toNat_wideSeconds]
  rfl

theorem uaddOverflow_wideRest (duration : Duration) :
    (duration.wideSeconds * BitVec.ofNat 128 1000).uaddOverflow duration.wideRest = false := by
  have hlt := duration.seconds.toNat_lt_size
  have hrest := duration.nanoseconds_lt
  rw [UInt64.size] at hlt
  simp only [BitVec.uaddOverflow, toNat_wideSeconds_mul, toNat_wideRest, decide_eq_false_iff_not]
  omega

theorem toNat_wideMillis (duration : Duration) : duration.wideMillis.toNat = duration.millis := by
  rw [wideMillis, BitVec.toNat_add_of_not_uaddOverflow (by simp [uaddOverflow_wideRest]),
    toNat_wideSeconds_mul, toNat_wideRest, millis]

theorem clampedMillis_eq_narrow (duration : Duration) :
    duration.clampedMillis =
      (narrow? duration.wideMillis).getD (.ofNat (UInt64.size - 1)) := by
  unfold clampedMillis narrow?
  rw [toNat_wideMillis]
  split
  next hlt => rw [Nat.min_eq_left (Nat.le_sub_one_of_lt hlt), Option.getD_some]
  next hge =>
    rw [Nat.min_eq_right (by omega), Option.getD_none]

end Duration

/-! ## A number as an argument -/

namespace Text

variable {bound value number : Nat} {excess : NumberFault}

theorem digit?_digitChar {digit : Nat} (hdigit : digit < 10) :
    digit? 10 digit.digitChar = some digit := by
  decide +revert

theorem readDigits_concat {digits : List Char} {digit : Nat} (hdigit : digit < 10)
    (hread : readDigits bound excess value digits = .ok number)
    (hbound : number * 10 + digit ≤ bound) :
    readDigits bound excess value (digits ++ [digit.digitChar]) = .ok (number * 10 + digit) := by
  induction digits generalizing value with
  | nil =>
      cases hread
      simp [readDigits, digit?_digitChar hdigit, hbound]
  | cons char rest ih =>
      rw [List.cons_append, readDigits]
      rw [readDigits] at hread
      cases hchar : digit? 10 char with
      | none => simp [hchar] at hread
      | some first =>
          simp only [hchar] at hread ⊢
          split at hread
          next hle =>
            rw [if_pos hle]
            exact ih hread
          next => cases hread

/-- A number that is written out is read again. -/
theorem readDigits_toDigits (hbound : number ≤ bound) :
    readDigits bound excess 0 (Nat.toDigits 10 number) = .ok number := by
  induction number using Nat.strongRecOn with
  | ind number ih =>
      by_cases hsmall : number < 10
      · have hread : readDigits bound excess 0 [] = .ok 0 := rfl
        rw [Nat.toDigits_of_lt_base hsmall]
        simpa using readDigits_concat hsmall hread (by omega)
      · have hread := ih (number / 10) (by omega) (by omega)
        have hwhole : number / 10 * 10 + number % 10 = number := by omega
        rw [Nat.toDigits_of_base_le (b := 10) (by decide) (Nat.le_of_not_lt hsmall)]
        have hdigit : number % 10 < 10 := Nat.mod_lt number (by decide)
        have hconcat := readDigits_concat hdigit hread (by rwa [hwhole])
        rwa [hwhole] at hconcat

theorem not_sign_of_mem_toDigits {char : Char} (hmem : char ∈ Nat.toDigits 10 number) :
    char ≠ '+' ∧ char ≠ '-' := by
  have hdigit := Nat.isDigit_of_mem_toDigits (b := 10) (by decide) (by decide) hmem
  constructor <;> (rintro rfl; revert hdigit; decide)

theorem readNat_toDigits (hbound : number ≤ bound) :
    readNat bound (Nat.toDigits 10 number) = .ok number := by
  have hread : readDigits bound .tooLarge 0 (Nat.toDigits 10 number) = .ok number :=
    readDigits_toDigits hbound
  have hplus : '+' ∉ Nat.toDigits 10 number := fun hmem => (not_sign_of_mem_toDigits hmem).1 rfl
  unfold readNat
  split
  next hnil => exact absurd hnil Nat.toDigits_ne_nil
  next hsign => simp [hsign] at hplus
  next hsign => simp [hsign] at hplus
  next => exact hread

end Text

theorem CommandLine.word64_toString (number : UInt64) :
    word64 (toString number.toNat) = .ok number := by
  have hbound : number.toNat ≤ Text.maxUInt64 := Nat.le_sub_one_of_lt number.toNat_lt_size
  rw [word64, Nat.toString_eq_ofList_toDigits, String.toList_ofList, Text.readNat_toDigits hbound]
  simp

theorem CommandLine.take_of_not_mem {σ : Type} {program : Program σ} {progress : Progress σ}
    {argument : String} (hoperands : progress.operands = false)
    (hdash : '-' ∉ argument.toList) :
    progress.take program argument = progress.takeOperand argument := by
  unfold Progress.take
  rw [if_neg (by simp [hoperands])]
  split
  next heq => simp [heq] at hdash
  next heq => simp [heq] at hdash
  next heq => simp [heq] at hdash
  next heq => simp [heq] at hdash
  next => rfl

theorem exists_take_replyDelayMs : ∃ opt,
    opt.effect = sets CommandLine.word64
      (fun (options : ServerOptions) millis => { options with replyDelayMs := some millis }) ∧
    CommandLine.Progress.take serverProgram { settings := {} } "--reply-delay-ms" =
      .ok { settings := {}, pending := some (opt, none) } :=
  ⟨_, rfl, rfl⟩

theorem parse_replyDelayMs (millis : UInt64) :
    ServerOptions.parse ["--reply-delay-ms", toString millis.toNat] =
      .ok { replyDelayMs := some millis } := by
  have hdash : '-' ∉ (toString millis.toNat).toList := by
    rw [Nat.toString_eq_ofList_toDigits, String.toList_ofList]
    exact fun hmem => (Text.not_sign_of_mem_toDigits hmem).2 rfl
  have hvalue := CommandLine.word64_toString millis
  obtain ⟨opt, heffect, htake⟩ := exists_take_replyDelayMs
  generalize toString millis.toNat = text at hdash hvalue ⊢
  unfold ServerOptions.parse CommandLine.Program.parse
  rw [List.foldlM_cons, htake]
  change Except.bind (Except.bind (CommandLine.Progress.take serverProgram _ text) _) _ = _
  rw [CommandLine.take_of_not_mem rfl hdash]
  simp [CommandLine.Progress.takeOperand, CommandLine.Progress.settle,
    CommandLine.Progress.apply, heffect, sets, hvalue, bind, Except.bind, Except.map,
    Except.mapError, pure, Except.pure]

/-! ## The reply delay -/

namespace ServerConfig

variable {options : ServerOptions} {document : Document} {millis : UInt64}

theorem replyDelayMs_build_of_option (hoption : options.replyDelayMs = some millis) :
    (build options document).replyDelayMs = millis := by
  simp [replyDelayMs, build, hoption]

theorem replyDelayMs_build_of_document (hoption : options.replyDelayMs = none)
    (hdocument : document.server.replyDelayMs = millis) :
    (build options document).replyDelayMs = millis := by
  simp [replyDelayMs, build, hoption, hdocument]

theorem replyDelayMs_build_of_table {readText : ReadText} {table : Toml.Table}
    (hloaded : Document.Loaded readText table document) (hoption : options.replyDelayMs = none)
    (hat : table.at? "server" "reply_delay_ms" = some (.integer millis.toNat)) :
    (build options document).replyDelayMs = millis := by
  refine replyDelayMs_build_of_document hoption ?_
  obtain ⟨entries, hserver, hreads⟩ := hloaded.reflects.server
  have htold := (hreads ServerSection.reads_replyDelayMs).getD 0
  rw [hat] at htold
  rw [hserver]
  cases htold with
  | value htells => exact leftUnique_word64 htells rfl

theorem exists_load_replyDelayMs (files : Files) (millis : UInt64) : ∃ config,
    load files.readText ["--reply-delay-ms", toString millis.toNat] = .ok config ∧
      config.replyDelayMs = millis := by
  refine ⟨build { replyDelayMs := some millis } .default, ?_, replyDelayMs_build_of_option rfl⟩
  have hbacklog : ServerSection.default.backlog ≠ 0 := by decide
  have hmax : ServerSection.default.maxConnections ≠ 0 := by decide
  have hreply : '\n' ∉ ServerSection.default.reply.toList := by decide
  rw [load_eq_loadWith]
  exact (loadWith_eq_iff merge_eq_iff).mpr
    (.loaded (parse_replyDelayMs millis) .nothing (.valid hbacklog hmax hreply))

/-- The reply delay in milliseconds is exact up to the largest number of 64 bits, and that
number above it; nothing overflows before it is cut. A longer delay has no fewer milliseconds,
and all numbers of milliseconds that an option or a document gives come back. -/
theorem replyDelayMs_exact :
    (∀ config : ServerConfig,
      config.replyDelayMs.toNat = min (config.replyDelay.seconds.toNat * 1000 +
        config.replyDelay.nanoseconds / 1000000) (UInt64.size - 1) ∧
      config.replyDelay.wideSeconds.umulOverflow (BitVec.ofNat 128 1000) = false ∧
      (config.replyDelay.wideSeconds * BitVec.ofNat 128 1000).uaddOverflow
        config.replyDelay.wideRest = false ∧
      config.replyDelayMs = (Duration.narrow? config.replyDelay.wideMillis).getD
        (.ofNat (UInt64.size - 1))) ∧
    (∀ shorter longer : ServerConfig, shorter.replyDelay ≤ longer.replyDelay →
      shorter.replyDelayMs ≤ longer.replyDelayMs) ∧
    (∀ (options : ServerOptions) (document : Document) (millis : UInt64),
      options.replyDelayMs = some millis ∨
        options.replyDelayMs = none ∧ document.server.replyDelayMs = millis →
      (build options document).replyDelayMs = millis) ∧
    (∀ (files : Files) (millis : UInt64), ∃ config,
      load files.readText ["--reply-delay-ms", toString millis.toNat] = .ok config ∧
        config.replyDelayMs = millis) ∧
    (∀ readText table document, Document.Loaded readText table document →
      ∀ (options : ServerOptions) (millis : UInt64), options.replyDelayMs = none →
        table.at? "server" "reply_delay_ms" = some (.integer millis.toNat) →
        (build options document).replyDelayMs = millis) := by
  refine ⟨?_, ?_, ?_, exists_load_replyDelayMs, ?_⟩
  · intro config
    exact ⟨Duration.toNat_clampedMillis config.replyDelay,
      Duration.umulOverflow_wideSeconds config.replyDelay,
      Duration.uaddOverflow_wideRest config.replyDelay,
      Duration.clampedMillis_eq_narrow config.replyDelay⟩
  · intro shorter longer hle
    exact Duration.clampedMillis_le_of_le hle
  · rintro options document millis (hoption | ⟨hoption, hdocument⟩)
    · exact replyDelayMs_build_of_option hoption
    · exact replyDelayMs_build_of_document hoption hdocument
  · intro readText table document hloaded options millis hoption hat
    exact replyDelayMs_build_of_table hloaded hoption hat

/-- The longest delay whose milliseconds have 64 bits: a nanosecond more and one is lost. -/
def longestDelay : Duration := { seconds := 18446744073709551, nanoseconds := 615999999 }

/-- One nanosecond more than the longest delay. -/
def overlongDelay : Duration := { seconds := 18446744073709551, nanoseconds := 616000000 }

theorem replyDelayMs_exact_border :
    longestDelay.millis = UInt64.size - 1 ∧ overlongDelay.millis = UInt64.size ∧
    { ServerConfig.default with replyDelay := longestDelay }.replyDelayMs ≤
      { ServerConfig.default with replyDelay := overlongDelay }.replyDelayMs ∧
    { ServerConfig.default with replyDelay := overlongDelay }.replyDelayMs.toNat = UInt64.size - 1 ∧
    (build { replyDelayMs := some 18446744073709551615 } .default).replyDelayMs =
      18446744073709551615 := by
  obtain ⟨hexact, hmono, hgiven, -⟩ := replyDelayMs_exact
  refine ⟨by decide +kernel, by decide +kernel, hmono _ _ (.inr ⟨rfl, by decide⟩), ?_,
    hgiven _ _ _ (.inl rfl)⟩
  rw [(hexact _).1]
  decide +kernel

end ServerConfig

end LineGreeting
