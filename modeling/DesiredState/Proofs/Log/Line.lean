import DesiredState.Log.Line
import DesiredState.Proofs.Json.Line
import DesiredState.Proofs.Text.Surrogates

/-!
# What a log line tells

A record is written as one object on one line of visible ASCII, whatever its texts contain, and
reading the line gives these texts back. So no text of a record can end its line, or add a member to
its object. The time of a record is a text without surrogates if its format is one: a moment has
none, and what is no conversion stays.

* `DateFormat.noSurrogates_fill`: a moment in a format without surrogates.
* `Log.decode_jsonLine`: **a line tells what was logged, and nothing else.**
-/

namespace DesiredState

open Text (NoSurrogates)

variable {t : Text}

/-! ### The parts of a moment -/

namespace Moment

variable (m : Moment)

@[simp] theorem noSurrogates_weekdayName : m.weekdayName.NoSurrogates :=
  Text.noSurrogates_getD (by decide) _

@[simp] theorem noSurrogates_monthName : m.monthName.NoSurrogates :=
  Text.noSurrogates_getD (by decide) _

@[simp] theorem noSurrogates_half : m.half.NoSurrogates := by
  unfold half
  split <;> simp

@[simp] theorem noSurrogates_clock : m.clock.NoSurrogates := by simp [clock]

@[simp] theorem noSurrogates_time : m.time.NoSurrogates := by simp [time]

@[simp] theorem noSurrogates_slashed : m.slashed.NoSurrogates := by simp [slashed]

@[simp] theorem noSurrogates_dashed : m.dashed.NoSurrogates := by simp [dashed]

@[simp] theorem noSurrogates_dialTime : m.dialTime.NoSurrogates := by simp [dialTime]

@[simp] theorem noSurrogates_written : m.written.NoSurrogates := by
  have hweekday := (noSurrogates_weekdayName m).take 3
  have hmonth := (noSurrogates_monthName m).take 3
  unfold written
  split <;> simp [hweekday, hmonth]

end Moment

/-! ### A moment in a format -/

namespace DateFormat

variable {m : Moment} {c : Conversion}

/-- The texts of a part have no surrogates. -/
def Part.HasNoSurrogates : Part → Prop
  | .number .. | .blankNumber .. => True
  | .word t | .capitals t | .text t => t.NoSurrogates

theorem hasNoSurrogates_part? {letter : Char} {p : Part} (h : part? m letter = some p) :
    p.HasNoSurrogates := by
  have hweekday := (Moment.noSurrogates_weekdayName m).take 3
  have hmonth := (Moment.noSurrogates_monthName m).take 3
  have hhalf := (Moment.noSurrogates_half m).asciiLower
  unfold part? at h
  split at h <;> cases h <;> simp [Part.HasNoSurrogates, hweekday, hmonth, hhalf]

theorem noSurrogates_widened (ht : t.NoSurrogates) : (c.widened t).NoSurrogates := by
  unfold Conversion.widened
  split <;> simp [ht]

theorem noSurrogates_number (c : Conversion) (digits : Nat) (n : Int) :
    (c.number digits n).NoSurrogates := by
  have hsign : NoSurrogates (if n < 0 then "-" else []) := by split <;> simp
  unfold Conversion.number
  dsimp only
  split
  · exact noSurrogates_widened (by simp [hsign])
  · simp [hsign]
  · simp [hsign]

theorem noSurrogates_part {p : Part} (hp : p.HasNoSurrogates) : (c.part p).NoSurrogates := by
  cases p with
  | number digits n => exact noSurrogates_number c digits n
  | blankNumber digits n => exact noSurrogates_number _ digits n
  | word t =>
    refine noSurrogates_widened ?_
    split
    · exact NoSurrogates.asciiUpper hp
    · exact hp
  | capitals t =>
    refine noSurrogates_widened ?_
    split
    · exact NoSurrogates.asciiLower hp
    · exact hp
  | text t => exact noSurrogates_widened hp

theorem noSurrogates_failed (ht : t.NoSurrogates) (letter : Option CodePoint) :
    (c.failed t letter).NoSurrogates := by
  have hwritten : NoSurrogates (if letter = some (CodePoint.ofChar '%') then ("%" : Text)
      else CodePoint.ofChar '%' :: t) := by
    split <;> simp [ht]
  refine noSurrogates_widened ?_
  split
  · exact hwritten.asciiUpper
  · exact hwritten

theorem noSurrogates_text (ht : t.NoSurrogates) (letter : CodePoint) :
    (c.text m t letter).NoSurrogates := by
  unfold Conversion.text
  split
  · exact noSurrogates_failed ht _
  split
  · rw [Text.noSurrogates_append]
    exact ⟨noSurrogates_widened (Text.noSurrogates_ofString _), noSurrogates_number c 4 0⟩
  split
  · next h =>
    have hp : NoSurrogates _ := hasNoSurrogates_part? h
    refine noSurrogates_widened ?_
    split
    · exact hp.asciiUpper
    · exact hp
  · next h => exact noSurrogates_part (hasNoSurrogates_part? h)
  · exact noSurrogates_failed ht _

theorem flags_suffix (c : Conversion) (t : Text) : (flags c t).2 <:+ t := by
  induction t generalizing c with
  | nil => exact List.suffix_rfl
  | cons f t ih =>
    have hnext (c : Conversion) : (flags c t).2 <:+ f :: t :=
      (ih c).trans (List.suffix_cons f t)
    unfold flags
    repeat' split
    all_goals first | exact hnext _ | exact List.suffix_rfl

/-- What is left behind the marks of a conversion is an end of the text. -/
theorem scan_suffix (t : Text) : (scan t).2 <:+ t := by
  have hflags := flags_suffix ⟨.asUsual, false, false, 0, none⟩ t
  have hdigits : (Numeral.digits (flags ⟨.asUsual, false, false, 0, none⟩ t).2).2 <:+ t :=
    (List.dropWhile_suffix _).trans hflags
  unfold scan
  dsimp only
  split
  · next e rest hrest =>
    rw [hrest] at hdigits
    split
    · exact (List.suffix_cons e rest).trans hdigits
    · exact hdigits
  · exact List.nil_suffix

theorem noSurrogates_fillFrom (m : Moment) (fuel : Nat) (ht : t.NoSurrogates) :
    (fillFrom m fuel t).NoSurrogates := by
  induction fuel generalizing t with
  | zero => exact ht
  | succ fuel ih =>
    cases t with
    | nil => exact Text.noSurrogates_nil
    | cons p t =>
      obtain ⟨hp, ht⟩ := Text.noSurrogates_cons.1 ht
      unfold fillFrom
      split
      · exact Text.noSurrogates_cons.2 ⟨hp, ih ht⟩
      split
      · exact noSurrogates_failed ht none
      · next c letter rest hscan =>
        have hsuffix := scan_suffix t
        rw [hscan] at hsuffix
        have hrest : NoSurrogates (letter :: rest) := ht.of_subset hsuffix.subset
        rw [Text.noSurrogates_append]
        exact ⟨noSurrogates_text (ht.take _) letter, ih (Text.noSurrogates_cons.1 hrest).2⟩

/-- A moment in a format has no surrogates if the format has none. -/
theorem noSurrogates_fill (m : Moment) {format : Text} (h : format.NoSurrogates) :
    (fill m format).NoSurrogates :=
  noSurrogates_fillFrom m _ h

end DateFormat

/-! ### Lines -/

namespace Log

theorem Instant.noSurrogates_stamp (i : Instant) {format : Text} (h : format.NoSurrogates) :
    (i.stamp format).NoSurrogates := by
  have hfill : (DateFormat.fill i.moment DateFormat.plain).NoSurrogates :=
    DateFormat.noSurrogates_fill i.moment (Text.noSurrogates_ofString _)
  have hsign : NoSurrogates (if i.thousandths < 0 then "-" else []) := by split <;> simp
  unfold stamp
  split
  · simp [hfill, hsign]
  · exact DateFormat.noSurrogates_fill i.moment h

/-- The object of a record whose texts have no surrogates is read as it is written. -/
theorem isFaithful_members {stamp level logger message : Text} {trouble : Option Text}
    (h : ∀ t ∈ [stamp, level, logger, message] ++ trouble.toList, t.NoSurrogates) :
    (Json.obj (members stamp level logger message trouble)).IsFaithful := by
  have hunpaired := fun t ht => Text.isUnpaired_of_noSurrogates (h t ht)
  have hname (s : String) : (Text.ofString s).IsUnpaired :=
    Text.isUnpaired_of_noSurrogates (Text.noSurrogates_ofString s)
  have hkeys : (Entries.keys (members stamp level logger message trouble)).Nodup := by
    cases trouble with
    | none => exact (by decide : [("ts" : Text), "level", "logger", "msg"].Nodup)
    | some t => exact (by decide : [("ts" : Text), "level", "logger", "msg", "exc"].Nodup)
  refine ⟨hkeys, Json.membersFaithful_iff.2 fun m hm => ?_⟩
  have hm' : m = (("ts" : Text), .str stamp) ∨ m = (("level" : Text), .str level) ∨
      m = (("logger" : Text), .str logger) ∨ m = (("msg" : Text), .str message) ∨
      ∃ t ∈ trouble, m = (("exc" : Text), .str t) := by
    cases trouble <;> simpa [members] using hm
  rcases hm' with rfl | rfl | rfl | rfl | ⟨t, ht, rfl⟩
  · exact ⟨hname _, hunpaired stamp (by simp)⟩
  · exact ⟨hname _, hunpaired level (by simp)⟩
  · exact ⟨hname _, hunpaired logger (by simp)⟩
  · exact ⟨hname _, hunpaired message (by simp)⟩
  · exact ⟨hname _, hunpaired t (by simp [Option.mem_def.1 ht])⟩

/-- **A line tells what was logged, and nothing else.** It is visible ASCII, so it is one line, and
it is read as an object with the members of the record in their order, each with its very text. -/
theorem decode_jsonLine (i : Instant) (format level logger message : Text) (trouble : Option Text)
    (h : ∀ t ∈ [format, level, logger, message] ++ trouble.toList, t.NoSurrogates) :
    (∀ c ∈ jsonLine (i.stamp format) level logger message trouble,
        0x20 ≤ c.val ∧ c.val ≤ 0x7E) ∧
      Json.decode (jsonLine (i.stamp format) level logger message trouble) =
        .ok (.obj (([("ts", .str (i.stamp format)), ("level", .str level), ("logger", .str logger),
          ("msg", .str message)] : List (Text × Json)) ++
            trouble.toList.map fun t => (("exc" : Text), .str t))) := by
  obtain ⟨hformat, hrest⟩ := List.forall_mem_cons.1 h
  have htexts : ∀ t ∈ [i.stamp format, level, logger, message] ++ trouble.toList,
      t.NoSurrogates :=
    List.forall_mem_cons.2 ⟨i.noSurrogates_stamp hformat, hrest⟩
  have hdepth : (Json.obj (members (i.stamp format) level logger message trouble)).depth = 1 := by
    cases trouble <;> rfl
  refine ⟨fun c hc => ?_, ?_⟩
  · have hvisible := Json.isVisible_encode _ c hc
    simpa [Json.isVisible] using hvisible
  · rw [jsonLine, Json.decode_encode (isFaithful_members htexts) (hdepth ▸ by decide)]
    cases trouble <;> rfl

/-- A message that looks like the end of its line and the beginning of another one. -/
def forgingMessage : Text :=
  "done\"\x7d\n\x7b\"level\": \"ERROR\", \"msg\": \"\u2028\u007f😀\\"

/-- The message stays a message. -/
theorem decode_jsonLine_forging :
    (∀ t ∈ [DateFormat.plain, "INFO", "log", forgingMessage] ++ (none : Option Text).toList,
        t.NoSurrogates) ∧
      Json.decode (jsonLine ((Instant.ofInt 0).stamp DateFormat.plain) "INFO" "log" forgingMessage
        none) =
        .ok (.obj [("ts", .str "1970-01-01 00:00:00"), ("level", .str "INFO"),
          ("logger", .str "log"), ("msg", .str forgingMessage)]) := by
  have htexts : ∀ t ∈ [DateFormat.plain, "INFO", "log", forgingMessage] ++
      (none : Option Text).toList, t.NoSurrogates := by decide
  have hstamp : (Instant.ofInt 0).stamp DateFormat.plain = ("1970-01-01 00:00:00" : Text) := by
    decide +kernel
  have hdecode := (decode_jsonLine (.ofInt 0) DateFormat.plain "INFO" "log" forgingMessage none
    htexts).2
  rw [hstamp] at hdecode ⊢
  exact ⟨htexts, hdecode⟩

end Log

end DesiredState
