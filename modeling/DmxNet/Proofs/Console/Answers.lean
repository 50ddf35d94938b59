import DmxNet.Proofs.Console.Delivery

/-!
# Answers to whole numbers

What the tools that make packets say to whole numbers of any size. Whoever gives numbers in their
ranges is told of a packet, and whoever gives others is refused with a reason; no fault comes out of a
tool, but for one (`AnswersFrame`): a frame of 65535 levels or more, all of them in range, overflows its
length field, and that fault is none of those that are answered (`answers_whole_numbers`).
-/

namespace DmxNet

/-- Whether a reply says what a packet is. -/
def Reply.tellsEncoded : Reply → Bool
  | .encoded .. => true
  | _ => false

/-- How a tool ends that makes the packet of a frame, by whether the numbers of the frame are in
their ranges and by the count of its levels. -/
structure AnswersFrame (fits : Prop) (count : Nat) (tells : Reply → Bool)
    (result : Except Fault Reply) : Prop where
  /-- There is an answer that tells of the packet exactly if there is a packet. -/
  tells_iff : (∃ reply, result = .ok reply ∧ tells reply = true) ↔
    fits ∧ 1 ≤ count ∧ count ≤ 512
  /-- There is no answer exactly if the length of the levels does not fit its field. -/
  fails_iff : (∃ fault, result = .error fault) ↔ fits ∧ 65535 ≤ count
  overflows : ∀ fault, result = .error fault → fault = .overflow .tooBig
  /-- In every other case the answer is a refusal. -/
  refuses_iff : (∃ reason, result = .ok (.refused reason)) ↔
    ¬ (fits ∧ (1 ≤ count ∧ count ≤ 512 ∨ 65535 ≤ count))

theorem isByte_after (n : Int) : IsByte (SequenceTable.after n) := by
  unfold IsByte SequenceTable.after
  omega

namespace Console

open Procedure Service

theorem answer_of_refusal {fault : Fault} (h : fault.isRefusal = true) :
    answer fault = .ok (.refused fault.message) := if_pos h

/-- A tool that tells of the packets that can be made, and answers faults as the tools that send do. -/
theorem Making.answers {numbers : List Int} {port : Int} {levels : List Int}
    {packet : Except Fault Bytes} {result : Except Fault Reply} {tells : Reply → Bool}
    (h : Making numbers port levels packet)
    (hok : ∀ bs, packet = .ok bs → ∃ reply, result = .ok reply ∧ tells reply = true)
    (herror : ∀ fault, packet = .error fault → result = answer fault)
    (hrefused : ∀ reason, tells (.refused reason) = false) :
    AnswersFrame (Fits numbers port levels) levels.length tells result := by
  cases h with
  | made fits count =>
    obtain ⟨reply, rfl, htells⟩ := hok _ rfl
    refine ⟨⟨fun _ => ⟨fits, count⟩, fun _ => ⟨reply, rfl, htells⟩⟩, ⟨nofun, ?_⟩, nofun, ⟨?_, ?_⟩⟩
    · rintro ⟨-, hcount⟩
      omega
    · rintro ⟨reason, ⟨⟩⟩
      rw [hrefused] at htells
      cases htells
    · intro hnot
      exact absurd ⟨fits, .inl count⟩ hnot
  | refused refusal count =>
    obtain rfl := (herror _ rfl).trans (answer_of_refusal refusal)
    have hnot : ¬ (Fits numbers port levels ∧
        (1 ≤ levels.length ∧ levels.length ≤ 512 ∨ 65535 ≤ levels.length)) := by
      rintro ⟨hfits, hcount⟩
      have := count hfits
      omega
    refine ⟨⟨?_, ?_⟩, ⟨nofun, ?_⟩, nofun, fun _ => hnot, fun _ => ⟨_, rfl⟩⟩
    · rintro ⟨_, ⟨⟩, htells⟩
      rw [hrefused] at htells
      cases htells
    · rintro ⟨hfits, hcount⟩
      exact absurd ⟨hfits, .inl hcount⟩ hnot
    · rintro ⟨hfits, hcount⟩
      exact absurd ⟨hfits, .inr hcount⟩ hnot
  | overflowed fits count =>
    obtain rfl : result = .error (.overflow .tooBig) := herror _ rfl
    refine ⟨⟨nofun, ?_⟩, ⟨fun _ => ⟨fits, count⟩, fun _ => ⟨_, rfl⟩⟩, ?_, nofun, ?_⟩
    · rintro ⟨-, hcount⟩
      omega
    · rintro _ ⟨⟩
      rfl
    · intro hnot
      exact absurd ⟨fits, .inr count⟩ hnot

theorem answers_encodeFrame (port sequence : Int) (levels : List Int) :
    AnswersFrame (Fits [sequence] port levels) levels.length Reply.tellsEncoded
      (encodeFrame (.int port) (.list (levels.map .int)) (.int sequence)) := by
  have hzero : IsByte 0 := ⟨le_rfl, by omega⟩
  have hfits : Fits [sequence] port levels = Fits [sequence, 0] port levels := by
    simp only [fits_cons_iff, hzero, true_and]
  have hm := making sequence 0 port levels
  rw [hfits]
  refine hm.answers (fun bs h => ?_) (fun fault h => ?_) (fun _ => rfl)
  · rw [encodeFrame, h]
    exact ⟨_, rfl, rfl⟩
  · rw [encodeFrame, h]
    rfl

variable {c : Console} {connection : Connection} {socket : Nat}

/-- As long as no call fails, a tool that sends tells of the packets that can be made. -/
theorem Delivery.cases_of_passes {packet : Except Fault Bytes} {sending : Bytes → Call}
    {recorded : SequenceTable} {result : Except Fault Reply × Console}
    (h : Delivery c packet sending recorded result) (hs : ∀ call, c.network.script call = none) :
    (∀ bs, packet = .ok bs → ∃ reply, result.1 = .ok reply ∧ reply.tellsSent = true) ∧
      ∀ fault, packet = .error fault → result.1 = answer fault := by
  cases h with
  | unmade unmade =>
    rw [unmade]
    refine ⟨nofun, ?_⟩
    rintro _ ⟨⟩
    rfl
  | failed made fails => cases (hs _).symm.trans fails
  | sent made passes tells =>
    rw [made]
    exact ⟨fun _ _ => ⟨_, rfl, tells⟩, nofun⟩

theorem answers_sendFrame (hw : c.Wired connection socket)
    (hs : ∀ call, c.network.script call = none) (port physical : Int) (levels : List Int)
    (numbered : Bool) :
    AnswersFrame (Fits [physical] port levels) levels.length Reply.tellsSent
      ((sendFrame (.int port) (.list (levels.map .int)) (.int physical) (.bool numbered)).run
        c).1 := by
  have hd := delivery_sendFrame hw port (.list (levels.map .int)) (.int physical) (.bool numbered)
  obtain ⟨hok, herror⟩ := hd.cases_of_passes hs
  have hsequence : IsByte (if numbered then c.upcoming port else 0) := by
    split
    · exact isByte_after _
    · exact ⟨le_rfl, by omega⟩
  have hfits : Fits [physical] port levels =
      Fits [if numbered then c.upcoming port else 0, physical] port levels := by
    rw [fits_cons_iff (n := if numbered then c.upcoming port else 0)]
    simp only [hsequence, true_and]
  rw [hfits]
  exact (making _ physical port levels).answers hok herror fun _ => rfl

/-- How the tool that sends time codes ends, by whether its numbers are in their ranges. -/
structure AnswersPosition (fits : Prop) (result : Except Fault Reply) : Prop where
  tells_iff : (∃ reply, result = .ok reply ∧ reply.tellsSent = true) ↔ fits
  refuses_iff : (∃ reason, result = .ok (.refused reason)) ↔ ¬ fits

theorem answers_sendTimecode (hw : c.Wired connection socket)
    (hs : ∀ call, c.network.script call = none)
    (hours minutes seconds frames keyType stream : Int) :
    AnswersPosition (∀ n ∈ [stream, frames, seconds, minutes, hours, keyType], IsByte n)
      ((sendTimecode (.int hours) (.int minutes) (.int seconds) (.int frames) (.int keyType)
        (.int stream)).run c).1 := by
  have hd := delivery_sendTimecode hw (.int hours) (.int minutes) (.int seconds) (.int frames)
    (.int keyType) (.int stream)
  obtain ⟨hok, herror⟩ := hd.cases_of_passes hs
  by_cases hfits : ∀ n ∈ [stream, frames, seconds, minutes, hours, keyType], IsByte n
  · obtain ⟨command, hposition⟩ := exists_position hfits
    obtain ⟨stamp, rfl⟩ := exists_stamp_of_position hposition
    obtain ⟨reply, hreply, htells⟩ :=
      hok _ (bind_eq_ok.mpr ⟨_, hposition, Packet.encode_stamp stamp⟩)
    refine ⟨⟨fun _ => hfits, fun _ => ⟨reply, hreply, htells⟩⟩, ?_, fun hn => absurd hfits hn⟩
    rintro ⟨reason, hreason⟩
    obtain rfl := Except.ok.inj (hreply.symm.trans hreason)
    cases htells
  · obtain ⟨fault, hfault, hrefusal⟩ := (refused_position hfits).bind Packet.encode
    have hreply := (herror fault hfault).trans (answer_of_refusal hrefusal)
    refine ⟨⟨?_, fun h => absurd h hfits⟩, fun _ => hfits, fun _ => ⟨_, hreply⟩⟩
    rintro ⟨reply, htold, htells⟩
    obtain rfl := Except.ok.inj (hreply.symm.trans htold)
    cases htells

/-- **Answers to whole numbers.** The tool that encodes a frame, and while a connection is open and no
call fails the one that sends a frame, tell of a packet exactly if the numbers are in their ranges and
there are 1 to 512 levels. They refuse whatever else they are given, but for levels in range whose
count is 65535 or more: these overflow the length field. A time code is sent exactly if its six
numbers are bytes, and refused otherwise. -/
theorem answers_whole_numbers (turns : List Turn)
    (ht : ∀ t ∈ turns, t.request.HasTypedSettings ∧ t.request.HasWholePort) :
    (∀ (port sequence : Int) (levels : List Int),
      AnswersFrame (Fits [sequence] port levels) levels.length Reply.tellsEncoded
        (encodeFrame (.int port) (.list (levels.map .int)) (.int sequence))) ∧
    ((∃ connection, (after {} turns).open? = some connection) →
      ∀ t : Turn, (∀ call, t.script call = none) →
        (∀ (port physical : Int) (levels : List Int) (numbered : Bool),
          t.request = .sendFrame (.int port) (.list (levels.map .int)) (.int physical)
            (.bool numbered) →
          AnswersFrame (Fits [physical] port levels) levels.length Reply.tellsSent
            (t.play (after {} turns)).1) ∧
        ∀ hours minutes seconds frames keyType stream : Int,
          t.request = .sendTimecode (.int hours) (.int minutes) (.int seconds) (.int frames)
            (.int keyType) (.int stream) →
          AnswersPosition (∀ n ∈ [hours, minutes, seconds, frames, keyType, stream], IsByte n)
            (t.play (after {} turns)).1) := by
  refine ⟨answers_encodeFrame, ?_⟩
  rintro ⟨connection, hopen⟩ t hs
  obtain ⟨socket, hw⟩ := ready_after turns ht connection hopen
  refine ⟨?_, ?_⟩
  · intro port physical levels numbered hr
    rw [Turn.play, hr]
    exact answers_sendFrame (hw.meet t) hs port physical levels numbered
  · intro hours minutes seconds frames keyType stream hr
    have h := answers_sendTimecode (hw.meet t) hs hours minutes seconds frames keyType stream
    have hfits : (∀ n ∈ [hours, minutes, seconds, frames, keyType, stream], IsByte n) =
        ∀ n ∈ [stream, frames, seconds, minutes, hours, keyType], IsByte n := by
      simp only [List.forall_mem_cons, eq_iff_iff]
      tauto
    rw [hfits, Turn.play, hr]
    exact h

/-- A turn in which no call fails and a level is to be sent to the last Port-Address. -/
def calm : Turn where
  request := .sendFrame (.int 32767) (.list [.int 255]) (.int 0) (.bool true)

theorem answers_whole_numbers_opened :
    (∀ t ∈ opened, t.request.HasTypedSettings ∧ t.request.HasWholePort) ∧
      (after {} opened).open? = some ⟨{}, some 0, true⟩ ∧ (∀ call, calm.script call = none) ∧
      (∃ reply, (calm.play (after {} opened)).1 = .ok reply ∧ reply.tellsSent = true) ∧
      ∃ reason, encodeFrame (.int 32767) (.list [.int 255]) (.int 256) =
        .ok (.refused reason) := by
  have hopen : (after {} opened).open? = some ⟨{}, some 0, true⟩ := rfl
  have hcalm : ∀ call, calm.script call = none := fun _ => rfl
  obtain ⟨hencode, hsend⟩ := answers_whole_numbers opened opened_typed
  obtain ⟨hframe, -⟩ := hsend ⟨_, hopen⟩ calm hcalm
  have hsent := hframe 32767 0 [255] true rfl
  have hfits : Fits [0] 32767 [255] := by
    refine ⟨?_, by omega, ?_⟩ <;> simp [IsByte]
  refine ⟨opened_typed, hopen, hcalm, hsent.tells_iff.mpr ⟨hfits, by simp⟩, ?_⟩
  refine (hencode 32767 256 [255]).refuses_iff.mpr ?_
  rintro ⟨hfits, -⟩
  have := (hfits.numbers 256 (by simp)).2
  omega

/-- Levels in range are not answered: 65535 of them overflow the length field. -/
theorem exists_unanswered :
    ∃ levels : List Int, levels.length = 65535 ∧ Fits [0] 1 levels ∧
      encodeFrame (.int 1) (.list (levels.map .int)) (.int 0) = .error (.overflow .tooBig) := by
  have hl : (List.replicate 65535 (0 : Int)).length = 65535 := List.length_replicate
  have hfits : Fits [0] 1 (List.replicate 65535 0) := by
    refine ⟨by simp [IsByte], by omega, fun level hlevel => ?_⟩
    rw [List.eq_of_mem_replicate hlevel]
    exact ⟨le_rfl, by omega⟩
  have h := answers_encodeFrame 1 0 (List.replicate 65535 0)
  obtain ⟨fault, hfault⟩ := h.fails_iff.mpr ⟨hfits, hl.ge⟩
  exact ⟨_, hl, hfits, hfault.trans (congrArg _ (h.overflows fault hfault))⟩

end Console

end DmxNet
