/-
What holds of the events which the public sees, over whole runs of edits.
-/
import BuddyWeb.Events.PublicQueries
import BuddyWeb.Lib.Run

namespace BuddyWeb

open Events

namespace EventDb

section Property

variable (db : EventDb)

def HasText (value : Option String) : Prop :=
  ∃ text, value = some text ∧ pyStrip text ≠ ""

/-- The event has texts in both languages, no end before its start, and a cover of its
own. -/
structure Publishable (event : EventRow) : Prop where
  titleEn : HasText event.titleEn
  titleDe : HasText event.titleDe
  descriptionEn : HasText event.descriptionEn
  descriptionDe : HasText event.descriptionDe
  schedule : ∀ start stop, event.startDate = some start → event.endDate = some stop →
    start < stop
  cover : ∃ media ∈ db.media.rows, event.coverMediaId = some media.id ∧
    media.eventId = event.id ∧ media.usage = .eventCover ∧ media.processingStatus = .ready ∧
    media.deletedAt = none

/-- Whatever the public may ask for, no text is missing. -/
structure PublicEventsPublishable : Prop where
  events : ∀ event ∈ db.events.rows, publicClause event = true → db.Publishable event
  lists : ∀ createSignedUrl filters now,
    listPublicEvents createSignedUrl db filters now ≠ .error .incompleteLocalization
  details : ∀ createSignedUrl eventId locale now,
    getPublicEventDetail createSignedUrl db eventId locale now ≠
      .error .incompleteLocalization

/-- The publication instant of an event is set by its first publication and stays. -/
structure PublishedAtKept (action : EventAction) (after : EventDb) : Prop where
  dated : ∀ later ∈ after.events.rows, later.status = .published → later.publishedAt ≠ none
  kept : ∀ event ∈ db.events.rows, ∀ later ∈ after.events.rows, later.id = event.id →
    event.publishedAt ≠ none → later.publishedAt = event.publishedAt
  set : ∀ later ∈ after.events.rows, later.publishedAt ≠ none →
    (∃ event ∈ db.events.rows, event.id = later.id ∧
        event.publishedAt = later.publishedAt) ∨
      later.status = .published ∧ ∃ actor version now,
        action = .setStatus actor later.id version .published now ∧
        later.publishedAt = some now

/-- A draft which was public before is cancelled only while it could be published. -/
def CancelsPublishable : EventAction → Prop
  | .setStatus _ eventId _ .cancelled _ =>
      ∀ event ∈ db.events.rows, event.id = eventId → event.status = .draft →
        event.publishedAt ≠ none → validatePublishable db event = .ok ()
  | _ => True

end Property

section Checks

variable {db : EventDb} {event : EventRow}

theorem hasText_iff {value : Option String} : hasText value = true ↔ HasText value := by
  cases value with
  | none => simp [hasText, HasText]
  | some text => simp [hasText, HasText]

theorem lockedEvent_eq_ok {eventId : Nat} (h : lockedEvent db eventId = .ok event) :
    event ∈ db.events.rows ∧ event.id = eventId ∧ event.deletedAt = none := by
  rw [lockedEvent, require_eq_ok_iff] at h
  have hfilter := Table.select?_filter h
  simp only [Bool.and_eq_true, beq_iff_eq, Option.isNone_iff_eq_none] at hfilter
  exact ⟨Table.select?_mem h, hfilter.1, hfilter.2⟩

/-- A checked schedule ends after it starts. -/
theorem lt_of_validateSchedule (h : validateSchedule event = .ok ()) {start stop : Int}
    (hstart : event.startDate = some start) (hstop : event.endDate = some stop) :
    start < stop := by
  simp only [validateSchedule, except_bind_eq_ok_iff, ensure_eq_ok_iff] at h
  obtain ⟨_, horder, _⟩ := h
  simpa [notBefore, hstart, hstop] using horder

theorem validateCover_eq_ok_iff {eventId coverMediaId : Nat} :
    validateCover db eventId coverMediaId = .ok () ↔
      ∃ media ∈ db.media.rows, coverMediaId = media.id ∧ media.eventId = eventId ∧
        media.usage = .eventCover ∧ media.processingStatus = .ready ∧
        media.deletedAt = none := by
  rw [validateCover, ensure_eq_ok_iff, Option.ne_none_iff_exists']
  constructor
  · rintro ⟨media, hselect⟩
    have hfilter := Table.select?_filter hselect
    simp only [isReadyCoverOf, Bool.and_eq_true, beq_iff_eq,
      Option.isNone_iff_eq_none] at hfilter
    obtain ⟨⟨⟨⟨hid, hevent⟩, husage⟩, hready⟩, hdeleted⟩ := hfilter
    exact ⟨media, Table.select?_mem hselect, hid.symm, hevent, husage, hready, hdeleted⟩
  · rintro ⟨media, hmedia, hid, hevent, husage, hready, hdeleted⟩
    refine ⟨media, Table.select?_eq_some_of_unique hmedia ?_ ?_⟩
    · simp [isReadyCoverOf, hid, hevent, husage, hready, hdeleted]
    · intro other hother hfilter
      simp only [isReadyCoverOf, Bool.and_eq_true, beq_iff_eq] at hfilter
      apply Table.eq_of_key hother hmedia
      exact hfilter.1.1.1.1.trans hid

/-- The check at publication asks for a valid schedule and for what makes an event
publishable. -/
theorem validatePublishable_eq_ok_iff :
    validatePublishable db event = .ok () ↔
      validateSchedule event = .ok () ∧ db.Publishable event := by
  constructor
  · intro h
    simp only [validatePublishable, except_bind_eq_ok_iff, ensure_eq_ok_iff] at h
    obtain ⟨_, htexts, _, hschedule, hcover⟩ := h
    refine ⟨hschedule, hasText_iff.mp htexts.1, hasText_iff.mp htexts.2.1,
      hasText_iff.mp htexts.2.2.1, hasText_iff.mp htexts.2.2.2,
      fun _ _ => lt_of_validateSchedule hschedule, ?_⟩
    cases hid : event.coverMediaId with
    | none => simp [hid] at hcover
    | some coverMediaId =>
        rw [hid] at hcover
        obtain ⟨media, hmedia, hsame, hrest⟩ := validateCover_eq_ok_iff.mp hcover
        exact ⟨media, hmedia, congrArg some hsame, hrest⟩
  · rintro ⟨hschedule, hpublishable⟩
    simp only [validatePublishable, except_bind_eq_ok_iff, ensure_eq_ok_iff]
    refine ⟨(), ⟨hasText_iff.mpr hpublishable.titleEn, hasText_iff.mpr hpublishable.titleDe,
      hasText_iff.mpr hpublishable.descriptionEn,
      hasText_iff.mpr hpublishable.descriptionDe⟩, (), hschedule, ?_⟩
    obtain ⟨media, hmedia, hid, hrest⟩ := hpublishable.cover
    simp only [hid]
    exact validateCover_eq_ok_iff.mpr ⟨media, hmedia, rfl, hrest⟩

end Checks

section Projection

variable {db : EventDb} {event : EventRow} (createSignedUrl : String → Option String)

theorem exists_localized {primary fallback : Option String} (h : HasText primary) :
    ∃ text, localized primary fallback = .ok text := by
  obtain ⟨text, rfl, htext⟩ := h
  have hne : text ≠ "" := by
    intro hempty
    rw [hempty] at htext
    exact htext (by decide)
  exact ⟨text, by simp [localized, orElse, hne, require]⟩

/-- A text in both languages is there in either order. -/
theorem exists_localized_inLocale (locale : EventLocale) {en de : Option String}
    (hen : HasText en) (hde : HasText de) :
    ∃ text, localized (inLocale locale en de).1 (inLocale locale en de).2 = .ok text := by
  cases locale with
  | en => exact exists_localized hen
  | de => exact exists_localized hde

theorem exists_localized_of_some (first second : String) :
    ∃ text, localized (some first) (some second) = .ok text := by
  by_cases hempty : first = ""
  · exact ⟨second, by simp [localized, orElse, hempty, require]⟩
  · exact ⟨first, by simp [localized, orElse, hempty, require]⟩

theorem projectCover_ne_incomplete (locale : EventLocale) (media : EventMediaRow) :
    projectCover createSignedUrl locale media ≠ .error .incompleteLocalization := by
  intro h
  have halt : ∃ text, localized (inLocale locale (some media.altEn) (some media.altDe)).1
      (inLocale locale (some media.altEn) (some media.altDe)).2 = .ok text := by
    cases locale with
    | en => exact exists_localized_of_some _ _
    | de => exact exists_localized_of_some _ _
  obtain ⟨text, htext⟩ := halt
  simp only [projectCover, except_bind_eq_error_iff, htext] at h
  rcases h with h | ⟨_, _, h | ⟨_, _, h⟩⟩
  · cases h
  · have herror := require_eq_error_iff.mp h
    cases herror.2
  · exact except_pure_ne_error h

theorem phaseAt_ne_incomplete (event : EventRow) (now : Int) :
    phaseAt event now ≠ .error .incompleteLocalization := by
  unfold phaseAt
  split
  · split
    · simp
    · split
      · simp
      · split <;> simp
  · simp

/-- An event with texts in both languages is projected without a missing one. -/
theorem projectEvent_ne_incomplete (h : db.Publishable event) (media : Option EventMediaRow)
    (locale : EventLocale) (now : Int) :
    projectEvent createSignedUrl event media locale now ≠ .error .incompleteLocalization := by
  intro hraised
  obtain ⟨title, htitle⟩ := exists_localized_inLocale locale h.titleEn h.titleDe
  obtain ⟨description, hdescription⟩ :=
    exists_localized_inLocale locale h.descriptionEn h.descriptionDe
  simp only [projectEvent, htitle, hdescription] at hraised
  cases hphase : phaseAt event now with
  | error error =>
      rw [hphase] at hraised
      apply phaseAt_ne_incomplete event now
      rw [hphase]
      exact congrArg Except.error (Except.error.inj hraised)
  | ok phase =>
      rw [hphase] at hraised
      cases media with
      | none => cases hraised
      | some media =>
          cases hcover : projectCover createSignedUrl locale media with
          | error error =>
              have hsame : (Except.error error : Except EventQueryError PublicEventResponse) =
                  .error .incompleteLocalization := by
                simpa [hcover, bind, Except.bind] using hraised
              apply projectCover_ne_incomplete createSignedUrl locale media
              rw [hcover]
              exact congrArg Except.error (Except.error.inj hsame)
          | ok cover => simp [hcover, bind, Except.bind, pure, Except.pure] at hraised

theorem validated_ne_incomplete (filters : PublicEventFilters) :
    validated filters ≠ .error .incompleteLocalization := by
  intro h
  simp only [validated, except_bind_eq_error_iff, ensure_eq_error_iff] at h
  rcases h with ⟨_, h⟩ | ⟨_, _, ⟨_, h⟩ | ⟨_, _, h⟩⟩
  · cases h
  · cases h
  · cases hfrom : filters.fromInstant with
    | none => cases hto : filters.toInstant <;> rw [hfrom, hto] at h <;> cases h
    | some start =>
        cases hto : filters.toInstant with
        | none =>
            rw [hfrom, hto] at h
            cases h
        | some stop =>
            simp only [hfrom, hto, except_bind_eq_error_iff, ensure_eq_error_iff] at h
            rcases h with ⟨_, h⟩ | ⟨_, _, h⟩
            · cases h
            · exact except_pure_ne_error h

/-- A page holds public events only. -/
theorem publicClause_of_mem_eventPage {filters : PublicEventFilters} {now : Int}
    {row : EventRow × Option EventMediaRow} (h : row ∈ eventPage db filters now) :
    row.1 ∈ db.events.rows ∧ publicClause row.1 = true := by
  simp only [eventPage, List.mem_map] at h
  obtain ⟨event, hevent, rfl⟩ := h
  have hselected := List.mem_filter.mp ((List.mem_insertionSort _).mp (window_subset _ _ _ hevent))
  simp only [filterClauses, Bool.and_eq_true] at hselected
  exact ⟨hselected.1, hselected.2.1.1.1⟩

/-- The public queries need no more than publishable events. -/
theorem PublicEventsPublishable.of_events
    (h : ∀ event ∈ db.events.rows, publicClause event = true → db.Publishable event) :
    db.PublicEventsPublishable where
  events := h
  lists := by
    intro createSignedUrl filters now hraised
    simp only [listPublicEvents, except_bind_eq_error_iff] at hraised
    rcases hraised with hfilters | ⟨checked, _, hitems | ⟨_, _, hresponse⟩⟩
    · exact validated_ne_incomplete filters hfilters
    · have hfound := raised_eq_some_iff.mpr hitems
      rw [raised_mapM] at hfound
      obtain ⟨row, hrow, hrowRaised⟩ := List.exists_of_findSome?_eq_some hfound
      obtain ⟨hmem, hpublic⟩ := publicClause_of_mem_eventPage hrow
      exact projectEvent_ne_incomplete createSignedUrl (h row.1 hmem hpublic) row.2 _ _
        (raised_eq_some_iff.mp hrowRaised)
    · exact except_pure_ne_error hresponse
  details := by
    intro createSignedUrl eventId locale now hraised
    simp only [getPublicEventDetail] at hraised
    split at hraised
    · cases hraised
    · rename_i event hselect
      have hfilter := Table.select?_filter hselect
      rw [Bool.and_eq_true] at hfilter
      have hproject := projectEvent_ne_incomplete createSignedUrl
        (h event (Table.select?_mem hselect) hfilter.2) (db.media.select? (coverJoin event))
        locale now
      apply hproject
      cases hresult : projectEvent createSignedUrl event
          (db.media.select? (coverJoin event)) locale now with
      | error error =>
          rw [hresult] at hraised
          exact congrArg Except.error (Except.error.inj hraised)
      | ok response =>
          rw [hresult] at hraised
          cases hraised

end Projection

section Steps

/-- One event gets a new version, and the media of the other events stay. -/
structure Edited (db after : EventDb) (event changed : EventRow) : Prop where
  row : event ∈ db.events.rows
  same : changed.id = event.id
  events : after.events = db.events.put changed
  media : ∀ media ∈ db.media.rows, media.eventId ≠ event.id → media ∈ after.media.rows

/-- What every state keeps besides the promise to the public. -/
structure EventFacts (db : EventDb) : Prop where
  scheduled : ∀ event ∈ db.events.rows, validateSchedule event = .ok ()
  dated : ∀ event ∈ db.events.rows, event.status = .published → event.publishedAt ≠ none

variable {db after : EventDb} {event changed : EventRow} {actor : User} {eventId version : Nat}

theorem Edited.mem_cases (h : Edited db after event changed) {later : EventRow}
    (hlater : later ∈ after.events.rows) :
    later = changed ∨ (later ∈ db.events.rows ∧ later.id ≠ event.id) := by
  rw [h.events] at hlater
  rcases Table.mem_put_iff.mp hlater with ⟨heq, _⟩ | ⟨hmem, hne⟩
  · exact Or.inl heq
  · exact Or.inr ⟨hmem, fun hid => hne (hid.trans h.same.symm)⟩

theorem Edited.mem_changed (h : Edited db after event changed) :
    changed ∈ after.events.rows := by
  rw [h.events]
  exact Table.mem_put_self h.row h.same

/-- Another event stays publishable. -/
theorem Publishable.of_media {other : EventRow} (h : db.Publishable other)
    (hmedia : ∀ media ∈ db.media.rows, media.eventId = other.id →
      media ∈ after.media.rows) : after.Publishable other where
  titleEn := h.titleEn
  titleDe := h.titleDe
  descriptionEn := h.descriptionEn
  descriptionDe := h.descriptionDe
  schedule := h.schedule
  cover := by
    obtain ⟨media, hmem, hid, hevent, hrest⟩ := h.cover
    exact ⟨media, hmedia media hmem hevent, hid, hevent, hrest⟩

theorem EventFacts.of_edited (facts : EventFacts db) (h : Edited db after event changed)
    (hschedule : validateSchedule changed = .ok ())
    (hdated : changed.status = .published → changed.publishedAt ≠ none) :
    EventFacts after where
  scheduled later hlater := by
    rcases h.mem_cases hlater with heq | ⟨hmem, _⟩
    · rw [heq]
      exact hschedule
    · exact facts.scheduled later hmem
  dated later hlater := by
    rcases h.mem_cases hlater with heq | ⟨hmem, _⟩
    · rw [heq]
      exact hdated
    · exact facts.dated later hmem

theorem publishable_of_edited
    (hpublic : ∀ event ∈ db.events.rows, publicClause event = true → db.Publishable event)
    (h : Edited db after event changed)
    (hchanged : publicClause changed = true → after.Publishable changed) :
    ∀ later ∈ after.events.rows, publicClause later = true → after.Publishable later := by
  intro later hlater hvisible
  rcases h.mem_cases hlater with heq | ⟨hmem, hne⟩
  · rw [heq] at hvisible ⊢
    exact hchanged hvisible
  · apply (hpublic later hmem hvisible).of_media
    intro media hmedia hevent
    exact h.media media hmedia fun hsame => hne (hevent.symm.trans hsame)

/-- What a request which commits has done. -/
inductive Transition (db after : EventDb) (action : EventAction) : Prop
  | created (event : EventRow) (hinsert : db.events.insert? event = some after.events)
      (hmedia : after.media = db.media) (hstatus : event.status = .draft)
      (hpublishedAt : event.publishedAt = none)
      (hschedule : validateSchedule event = .ok ())
  | unchanged (hsame : after = db)
  | edited (event changed : EventRow) (hedited : Edited db after event changed)
      (hstatus : changed.status = event.status)
      (hpublishedAt : changed.publishedAt = event.publishedAt)
      (hdeletedAt : changed.deletedAt = event.deletedAt)
      (hschedule : validateSchedule changed = .ok ())
      (hpublishable : publicClause event = true → db.Publishable event →
        after.Publishable changed)
  | moved (actor : User) (event : EventRow) (version : Nat) (status : EventStatus) (now : Int)
      (haction : action = .setStatus actor event.id version status now)
      (hedited : Edited db after event (touchedBy actor (withStatus event status now)))
      (hmedia : after.media = db.media) (hdeletedAt : event.deletedAt = none)
      (hstatus : event.status ≠ status)
      (hpublish : status = .published → validatePublishable db event = .ok ())
  | deleted (eventId : Nat)
      (hevents : ∀ later, later ∈ after.events.rows ↔
        later ∈ db.events.rows ∧ later.id ≠ eventId)
      (hmedia : ∀ media ∈ db.media.rows, media.eventId ≠ eventId → media ∈ after.media.rows)

theorem transition_create {id : Nat} {draft : EventContent}
    (h : createEventDraft db actor id draft = .ok after) {action : EventAction} :
    Transition db after action := by
  simp only [createEventDraft, except_bind_eq_ok_iff, require_eq_ok_iff,
    except_pure_eq_ok_iff] at h
  obtain ⟨_, _, _, hschedule, events, hinsert, rfl⟩ := h
  exact .created _ hinsert rfl rfl rfl hschedule

theorem transition_update {changes : EventChanges} {dependencies : Dependencies}
    (h : updateEventDraft db actor eventId version changes dependencies = .ok after)
    {action : EventAction} : Transition db after action := by
  simp only [updateEventDraft, except_bind_eq_ok_iff, except_pure_eq_ok_iff] at h
  obtain ⟨_, _, event, hlocked, _, _, _, hschedule, _, _, _, _, _, hremains, rfl⟩ := h
  have hevent := lockedEvent_eq_ok hlocked
  have hedited : Edited db { db with events := db.events.put (touchedBy actor
      (applyTo changes event)) } event (touchedBy actor (applyTo changes event)) :=
    ⟨hevent.1, rfl, rfl, fun _ hmedia _ => hmedia⟩
  refine .edited event _ hedited rfl rfl rfl hschedule ?_
  intro hpublic _
  -- a public event is published, or cancelled with its publication instant
  have hpublished : remainsPubliclyPublished event = true := by
    simp only [publicClause, Bool.and_eq_true, Bool.or_eq_true, beq_iff_eq] at hpublic
    rcases hpublic.2 with hstatus | hstatus <;>
      simp [remainsPubliclyPublished, hstatus, hpublic.1.2]
  rw [validateRemainsPublishable, if_pos hpublished] at hremains
  have hkept := (validatePublishable_eq_ok_iff.mp hremains).2
  exact ⟨hkept.titleEn, hkept.titleDe, hkept.descriptionEn, hkept.descriptionDe,
    hkept.schedule, hkept.cover⟩

/-- A status change finds its event in that status already, or moves it there. -/
theorem setEventStatus_eq_ok {status : EventStatus} {now : Int}
    (h : setEventStatus db actor eventId version status now = .ok after) :
    ∃ event ∈ db.events.rows, event.id = eventId ∧ event.deletedAt = none ∧
      (event.status = status ∧ after = db ∨
        event.status ≠ status ∧
          (status = .published → validatePublishable db event = .ok ()) ∧
          after =
            { db with
              events := db.events.put (touchedBy actor (withStatus event status now)) }) := by
  simp only [setEventStatus, except_bind_eq_ok_iff] at h
  obtain ⟨_, _, event, hlocked, _, _, h⟩ := h
  obtain ⟨hrow, hid, hlive⟩ := lockedEvent_eq_ok hlocked
  refine ⟨event, hrow, hid, hlive, ?_⟩
  by_cases hstatus : event.status = status
  · rw [if_pos hstatus, except_pure_eq_ok_iff] at h
    exact Or.inl ⟨hstatus, h.symm⟩
  · simp only [hstatus, ↓reduceIte, except_bind_eq_ok_iff, except_pure_eq_ok_iff] at h
    obtain ⟨_, hpublish, rfl⟩ := h
    refine Or.inr ⟨hstatus, fun hpublished => ?_, rfl⟩
    rwa [validatePublication, if_pos hpublished] at hpublish

theorem edited_withStatus (hrow : event ∈ db.events.rows) (status : EventStatus) (now : Int) :
    Edited db { db with events := db.events.put (touchedBy actor (withStatus event status now)) }
      event (touchedBy actor (withStatus event status now)) := by
  have hsame : (touchedBy actor (withStatus event status now)).id = event.id := by
    cases status <;> rfl
  exact ⟨hrow, hsame, rfl, fun _ hmedia _ => hmedia⟩

theorem transition_setStatus {status : EventStatus} {now : Int}
    (h : setEventStatus db actor eventId version status now = .ok after) :
    Transition db after (.setStatus actor eventId version status now) := by
  obtain ⟨event, hrow, hid, hlive, ⟨_, hsame⟩ | ⟨hstatus, hpublish, hafter⟩⟩ :=
    setEventStatus_eq_ok h
  · exact .unchanged hsame
  · subst hafter hid
    exact .moved actor event version status now rfl (edited_withStatus hrow status now) rfl
      hlive hstatus hpublish

theorem transition_delete {dependencies : Dependencies}
    (h : Events.deleteEvent db actor eventId version dependencies = .ok after)
    {action : EventAction} : Transition db after action := by
  simp only [deleteEvent, except_bind_eq_ok_iff, except_pure_eq_ok_iff] at h
  obtain ⟨_, _, event, _, _, _, _, _, _, _, rfl⟩ := h
  apply Transition.deleted event.id
  · intro later
    simp
  · intro media hmedia hne
    simpa using ⟨hmedia, hne⟩

theorem activeMedia_eq_some {mediaId : Nat} {media : EventMediaRow}
    (h : activeMedia db eventId mediaId = some media) :
    media ∈ db.media.rows ∧ media.id = mediaId ∧ media.eventId = eventId := by
  have hfilter := Table.select?_filter h
  simp only [Bool.and_eq_true, beq_iff_eq] at hfilter
  exact ⟨Table.select?_mem h, hfilter.1.1, hfilter.1.2⟩

/-- An edit which leaves the texts and the schedule of an event needs a cover only. -/
theorem Publishable.of_cover (h : db.Publishable event) (htouched : changed.toEventContent =
      event.toEventContent)
    (hcover : ∃ media ∈ after.media.rows, changed.coverMediaId = some media.id ∧
      media.eventId = changed.id ∧ media.usage = .eventCover ∧
      media.processingStatus = .ready ∧ media.deletedAt = none) :
    after.Publishable changed where
  titleEn := by rw [htouched]; exact h.titleEn
  titleDe := by rw [htouched]; exact h.titleDe
  descriptionEn := by rw [htouched]; exact h.descriptionEn
  descriptionDe := by rw [htouched]; exact h.descriptionDe
  schedule := by rw [htouched]; exact h.schedule
  cover := hcover

/-- The media of another event are not the row which an event has. -/
theorem ne_of_eventId {media other : EventMediaRow} (hother : other ∈ db.media.rows)
    (hmedia : media ∈ db.media.rows) (hevent : media.eventId = eventId)
    (hne : other.eventId ≠ eventId) : other.id ≠ media.id := by
  intro hid
  rw [Table.eq_of_key hother hmedia hid] at hne
  exact hne hevent

theorem transition_uploadCover {mediaId : Nat} {uploaded : UploadedCover}
    (facts : EventFacts db)
    (h : stageEventCoverReplacement db actor eventId version mediaId uploaded = .ok after)
    {action : EventAction} : Transition db after action := by
  simp only [stageEventCoverReplacement, except_bind_eq_ok_iff, require_eq_ok_iff,
    except_pure_eq_ok_iff] at h
  obtain ⟨_, _, event, hlocked, _, _, inserted, hinsert, rfl⟩ := h
  have hevent := lockedEvent_eq_ok hlocked
  obtain ⟨hfresh, hrows⟩ := Table.insert?_eq_some_iff.mp hinsert
  have hprevious : ∀ previous, event.coverMediaId.bind (activeMedia db event.id) =
      some previous → previous ∈ db.media.rows ∧ previous.eventId = event.id := by
    intro previous hbind
    obtain ⟨coverMediaId, _, hactive⟩ := Option.bind_eq_some_iff.mp hbind
    exact ⟨(activeMedia_eq_some hactive).1, (activeMedia_eq_some hactive).2.2⟩
  refine .edited event (touchedBy actor { event with coverMediaId := some mediaId })
    ⟨hevent.1, rfl, rfl, ?_⟩ rfl rfl rfl (facts.scheduled event hevent.1) ?_
  · intro media hmedia hne
    rw [Table.mem_delete_iff, hrows]
    refine ⟨List.mem_cons_of_mem _ hmedia, ?_⟩
    cases hbind : event.coverMediaId.bind (activeMedia db event.id) with
    | none => rfl
    | some previous =>
        obtain ⟨hmem, hown⟩ := hprevious previous hbind
        simpa using (ne_of_eventId hmedia hmem hown hne).symm
  · intro _ hpublishable
    refine hpublishable.of_cover ?_ ?_
    · rfl
    refine ⟨_, Table.mem_delete_iff.mpr ⟨hrows ▸ List.mem_cons_self, ?_⟩, rfl, rfl, rfl, rfl,
      rfl⟩
    cases hbind : event.coverMediaId.bind (activeMedia db event.id) with
    | none => rfl
    | some previous =>
        -- the key of the new row was not in use
        have hne : previous.id ≠ mediaId := hfresh previous (hprevious previous hbind).1
        simpa using hne

theorem requireCover_eq_ok {mediaId : Nat} {media : EventMediaRow}
    (h : requireCover db eventId mediaId = .ok media) :
    media ∈ db.media.rows ∧ media.eventId = eventId := by
  simp only [requireCover, except_bind_eq_ok_iff, require_eq_ok_iff,
    except_pure_eq_ok_iff] at h
  obtain ⟨found, hfound, _, _, rfl⟩ := h
  exact ⟨(activeMedia_eq_some hfound).1, (activeMedia_eq_some hfound).2.2⟩

theorem transition_updateMedia {mediaId : Nat} {changes : MediaChanges}
    (facts : EventFacts db)
    (h : updateEventMediaMetadata db actor eventId mediaId version changes = .ok after)
    {action : EventAction} : Transition db after action := by
  simp only [updateEventMediaMetadata, except_bind_eq_ok_iff, except_pure_eq_ok_iff] at h
  obtain ⟨_, _, event, hlocked, _, _, media, hcover, rfl⟩ := h
  have hevent := lockedEvent_eq_ok hlocked
  obtain ⟨hmedia, hown⟩ := requireCover_eq_ok hcover
  refine .edited event (touchedBy actor event) ⟨hevent.1, rfl, rfl, ?_⟩ rfl rfl rfl
    (facts.scheduled event hevent.1) ?_
  · intro other hother hne
    have hdifferent : other.id ≠ media.id := ne_of_eventId hother hmedia hown hne
    exact Table.mem_put_of_ne hother hdifferent
  · intro _ hpublishable
    obtain ⟨current, hcurrent, hid, hrest⟩ := hpublishable.cover
    refine hpublishable.of_cover ?_ ?_
    · rfl
    by_cases hsame : current.id = media.id
    · have heq := Table.eq_of_key hcurrent hmedia hsame
      rw [heq] at hid hrest
      exact ⟨_, Table.mem_put_self hmedia rfl, hid, hrest⟩
    · exact ⟨current, Table.mem_put_of_ne hcurrent hsame, hid, hrest⟩

theorem transition_deleteMedia {mediaId : Nat}
    (facts : EventFacts db)
    (h : deleteEventMedia db actor eventId mediaId version = .ok after)
    {action : EventAction} : Transition db after action := by
  simp only [deleteEventMedia, except_bind_eq_ok_iff, except_pure_eq_ok_iff] at h
  obtain ⟨_, _, event, hlocked, _, _, media, hcover, detached, hdetached, rfl⟩ := h
  have hevent := lockedEvent_eq_ok hlocked
  obtain ⟨hmedia, hown⟩ := requireCover_eq_ok hcover
  have hothers : ∀ other ∈ db.media.rows, other.eventId ≠ event.id →
      other ∈ (db.media.delete fun row => row.id == media.id).rows := by
    intro other hother hne
    rw [Table.mem_delete_iff]
    exact ⟨hother, by simpa using ne_of_eventId hother hmedia hown hne⟩
  by_cases hinUse : event.coverMediaId = some media.id
  · simp only [detachCover, hinUse, ↓reduceIte, except_bind_eq_ok_iff, ensure_eq_ok_iff,
      except_pure_eq_ok_iff] at hdetached
    obtain ⟨_, hdraft, rfl⟩ := hdetached
    refine .edited event (touchedBy actor { event with coverMediaId := none })
      ⟨hevent.1, rfl, rfl, hothers⟩ rfl rfl rfl (facts.scheduled event hevent.1) ?_
    intro hpublic
    simp [publicClause, hdraft] at hpublic
  · simp only [detachCover, hinUse, ↓reduceIte, except_pure_eq_ok_iff] at hdetached
    subst hdetached
    refine .edited event (touchedBy actor event) ⟨hevent.1, rfl, rfl, hothers⟩ rfl rfl rfl
      (facts.scheduled event hevent.1) ?_
    intro _ hpublishable
    obtain ⟨current, hcurrent, hid, hrest⟩ := hpublishable.cover
    refine hpublishable.of_cover ?_ ⟨current, ?_, hid, hrest⟩
    · rfl
    rw [Table.mem_delete_iff]
    refine ⟨hcurrent, ?_⟩
    have hne : current.id ≠ media.id := fun hsame => hinUse (hid.trans (congrArg some hsame))
    simpa using hne

/-- Every request which commits is one of the five changes. -/
theorem transition_of_step (facts : EventFacts db) {action : EventAction}
    (hstep : db.Step action after) : Transition db after action := by
  cases action with
  | create actor id draft => exact transition_create hstep
  | update actor eventId version changes dependencies => exact transition_update hstep
  | setStatus actor eventId version status now => exact transition_setStatus hstep
  | delete actor eventId version dependencies => exact transition_delete hstep
  | uploadCover actor eventId version mediaId uploaded =>
      exact transition_uploadCover facts hstep
  | updateMedia actor eventId mediaId version changes =>
      exact transition_updateMedia facts hstep
  | deleteMedia actor eventId mediaId version => exact transition_deleteMedia facts hstep

end Steps

section Runs

variable {db after : EventDb} {action : EventAction}

theorem facts_empty : EventFacts empty where
  scheduled _ h := absurd h List.not_mem_nil
  dated _ h := absurd h List.not_mem_nil

/-- A moved event keeps its texts, its schedule and its cover. -/
theorem withStatus_schedule (event : EventRow) (status : EventStatus) (now : Int) :
    validateSchedule (withStatus event status now) = validateSchedule event := by
  cases status <;> rfl

theorem EventFacts.step (facts : EventFacts db) (hstep : db.Step action after) :
    EventFacts after := by
  cases transition_of_step facts hstep with
  | created event hinsert hmedia hstatus hpublishedAt hschedule =>
      have hrows := (Table.insert?_eq_some_iff.mp hinsert).2
      constructor
      · intro later hlater
        rw [hrows] at hlater
        rcases List.mem_cons.mp hlater with heq | hmem
        · rw [heq]
          exact hschedule
        · exact facts.scheduled later hmem
      · intro later hlater hpublished
        rw [hrows] at hlater
        rcases List.mem_cons.mp hlater with heq | hmem
        · rw [heq, hstatus] at hpublished
          cases hpublished
        · exact facts.dated later hmem hpublished
  | unchanged hsame =>
      rw [hsame]
      exact facts
  | edited event changed hedited hstatus hpublishedAt hdeletedAt hschedule hpublishable =>
      apply facts.of_edited hedited hschedule
      rw [hstatus, hpublishedAt]
      exact facts.dated event hedited.row
  | moved actor event version status now haction hedited hmedia hdeletedAt hstatus hpublish =>
      apply facts.of_edited hedited
      · exact (withStatus_schedule event status now).trans (facts.scheduled event hedited.row)
      · intro hpublished
        cases status with
        | published => simp [touchedBy, withStatus]
        | draft => cases hpublished
        | cancelled => cases hpublished
  | deleted eventId hevents hmedia =>
      constructor
      · intro later hlater
        exact facts.scheduled later ((hevents later).mp hlater).1
      · intro later hlater
        exact facts.dated later ((hevents later).mp hlater).1

theorem publicClause_iff {event : EventRow} :
    publicClause event = true ↔ event.deletedAt = none ∧ event.publishedAt ≠ none ∧
      (event.status = .published ∨ event.status = .cancelled) := by
  simp [publicClause, Option.isSome_iff_ne_none, and_assoc]

/-- A move to a status keeps what makes an event publishable. -/
theorem Publishable.withStatus {event : EventRow} (h : db.Publishable event)
    (hmedia : after.media = db.media) (actor : User) (status : EventStatus) (now : Int) :
    after.Publishable (touchedBy actor (withStatus event status now)) := by
  have hcover := h.cover
  rw [← hmedia] at hcover
  cases status <;>
    exact ⟨h.titleEn, h.titleDe, h.descriptionEn, h.descriptionDe, h.schedule, hcover⟩

/-- Before it moves to a status which the public sees, an event is publishable. -/
theorem publishable_of_moved {event : EventRow} {actor : User} {version : Nat}
    {status : EventStatus} {now : Int}
    (hpublic : ∀ event ∈ db.events.rows, publicClause event = true → db.Publishable event)
    (hallowed : db.CancelsPublishable (.setStatus actor event.id version status now))
    (hrow : event ∈ db.events.rows) (hlive : event.deletedAt = none)
    (hpublish : status = .published → validatePublishable db event = .ok ())
    (hmoved : publicClause (touchedBy actor (Events.withStatus event status now)) = true) :
    db.Publishable event := by
  cases status with
  | draft => simp [publicClause, touchedBy, Events.withStatus] at hmoved
  | published => exact (validatePublishable_eq_ok_iff.mp (hpublish rfl)).2
  | cancelled =>
      have hdated : event.publishedAt ≠ none := (publicClause_iff.mp hmoved).2.1
      cases hstatus : event.status with
      | draft =>
          exact (validatePublishable_eq_ok_iff.mp
            (hallowed event hrow rfl hstatus hdated)).2
      | published =>
          exact hpublic event hrow (publicClause_iff.mpr ⟨hlive, hdated, Or.inl hstatus⟩)
      | cancelled =>
          exact hpublic event hrow (publicClause_iff.mpr ⟨hlive, hdated, Or.inr hstatus⟩)

theorem publishable_step (facts : EventFacts db)
    (hpublic : ∀ event ∈ db.events.rows, publicClause event = true → db.Publishable event)
    (hallowed : db.CancelsPublishable action) (hstep : db.Step action after) :
    ∀ later ∈ after.events.rows, publicClause later = true → after.Publishable later := by
  cases transition_of_step facts hstep with
  | created event hinsert hmedia hstatus hpublishedAt hschedule =>
      intro later hlater hvisible
      rw [(Table.insert?_eq_some_iff.mp hinsert).2] at hlater
      rcases List.mem_cons.mp hlater with heq | hmem
      · rw [heq] at hvisible
        exact absurd hpublishedAt (publicClause_iff.mp hvisible).2.1
      · apply (hpublic later hmem hvisible).of_media
        intro media hold _
        rwa [hmedia]
  | unchanged hsame =>
      rw [hsame]
      exact hpublic
  | edited event changed hedited hstatus hpublishedAt hdeletedAt hschedule hpublishable =>
      apply publishable_of_edited hpublic hedited
      intro hvisible
      have hbefore : publicClause event = true := by
        rwa [publicClause_iff, hstatus, hpublishedAt, hdeletedAt, ← publicClause_iff]
          at hvisible
      exact hpublishable hbefore (hpublic event hedited.row hbefore)
  | moved actor event version status now haction hedited hmedia hdeletedAt hstatus hpublish =>
      apply publishable_of_edited hpublic hedited
      intro hvisible
      rw [haction] at hallowed
      exact (publishable_of_moved hpublic hallowed hedited.row hdeletedAt hpublish
        hvisible).withStatus hmedia actor status now
  | deleted eventId hevents hmedia =>
      intro later hlater hvisible
      obtain ⟨hmem, hne⟩ := (hevents later).mp hlater
      apply (hpublic later hmem hvisible).of_media
      intro media hold hown
      exact hmedia media hold fun hsame => hne (hown.symm.trans hsame)

theorem withStatus_publishedAt (event : EventRow) (status : EventStatus) (now : Int) :
    (Events.withStatus event status now).publishedAt = event.publishedAt ∨
      event.publishedAt = none ∧ status = .published ∧
        (Events.withStatus event status now).publishedAt = some now := by
  cases status with
  | draft => exact Or.inl rfl
  | cancelled => exact Or.inl rfl
  | published =>
      cases hdated : event.publishedAt with
      | none => exact Or.inr ⟨rfl, rfl, by simp [Events.withStatus, hdated]⟩
      | some publishedAt => exact Or.inl (by simp [Events.withStatus, hdated])

theorem kept_step (facts : EventFacts db) (hstep : db.Step action after) :
    ∀ event ∈ db.events.rows, ∀ later ∈ after.events.rows, later.id = event.id →
      event.publishedAt ≠ none → later.publishedAt = event.publishedAt := by
  intro event hevent later hlater hid hdated
  have hold : later ∈ db.events.rows → later.publishedAt = event.publishedAt :=
    fun hmem => congrArg EventRow.publishedAt (Table.eq_of_key hmem hevent hid)
  cases transition_of_step facts hstep with
  | created new hinsert hmedia hstatus hpublishedAt hschedule =>
      obtain ⟨hfresh, hrows⟩ := Table.insert?_eq_some_iff.mp hinsert
      rw [hrows] at hlater
      rcases List.mem_cons.mp hlater with heq | hmem
      · rw [heq] at hid
        exact absurd hid.symm (hfresh event hevent)
      · exact hold hmem
  | unchanged hsame =>
      rw [hsame] at hlater
      exact hold hlater
  | edited row changed hedited hstatus hpublishedAt hdeletedAt hschedule hpublishable =>
      rcases hedited.mem_cases hlater with heq | ⟨hmem, _⟩
      · rw [heq, hedited.same] at hid
        rw [heq, hpublishedAt, Table.eq_of_key hedited.row hevent hid]
      · exact hold hmem
  | moved actor row version status now haction hedited hmedia hdeletedAt hstatus hpublish =>
      rcases hedited.mem_cases hlater with heq | ⟨hmem, _⟩
      · rw [heq, hedited.same] at hid
        have hrow : row = event := Table.eq_of_key hedited.row hevent hid
        rw [heq, hrow]
        rcases withStatus_publishedAt event status now with hsame | ⟨hnone, _, _⟩
        · exact hsame
        · exact absurd hnone hdated
      · exact hold hmem
  | deleted eventId hevents hmedia => exact hold ((hevents later).mp hlater).1

theorem set_step (facts : EventFacts db) (hstep : db.Step action after) :
    ∀ later ∈ after.events.rows, later.publishedAt ≠ none →
      (∃ event ∈ db.events.rows, event.id = later.id ∧
          event.publishedAt = later.publishedAt) ∨
        later.status = .published ∧ ∃ actor version now,
          action = .setStatus actor later.id version .published now ∧
          later.publishedAt = some now := by
  intro later hlater hdated
  cases transition_of_step facts hstep with
  | created new hinsert hmedia hstatus hpublishedAt hschedule =>
      rw [(Table.insert?_eq_some_iff.mp hinsert).2] at hlater
      rcases List.mem_cons.mp hlater with heq | hmem
      · rw [heq] at hdated
        exact absurd hpublishedAt hdated
      · exact Or.inl ⟨later, hmem, rfl, rfl⟩
  | unchanged hsame =>
      rw [hsame] at hlater
      exact Or.inl ⟨later, hlater, rfl, rfl⟩
  | edited row changed hedited hstatus hpublishedAt hdeletedAt hschedule hpublishable =>
      rcases hedited.mem_cases hlater with heq | ⟨hmem, _⟩
      · rw [heq]
        exact Or.inl ⟨row, hedited.row, hedited.same.symm, hpublishedAt.symm⟩
      · exact Or.inl ⟨later, hmem, rfl, rfl⟩
  | moved actor row version status now haction hedited hmedia hdeletedAt hstatus hpublish =>
      rcases hedited.mem_cases hlater with heq | ⟨hmem, _⟩
      · have hid := hedited.same
        rw [← heq] at hid
        rcases withStatus_publishedAt row status now with hsame | ⟨_, hpublished, hnow⟩
        · left
          exact ⟨row, hedited.row, hid.symm, by rw [heq]; exact hsame.symm⟩
        · right
          rw [hpublished] at haction hnow heq
          constructor
          · rw [heq]
            rfl
          · exact ⟨actor, version, now, by rw [hid, haction], by rw [heq]; exact hnow⟩
      · exact Or.inl ⟨later, hmem, rfl, rfl⟩
  | deleted eventId hevents hmedia =>
      exact Or.inl ⟨later, ((hevents later).mp hlater).1, rfl, rfl⟩

theorem facts_of_reaches {allowed : EventDb → EventAction → Prop}
    (hreach : Reaches (· = empty) Step allowed db) : EventFacts db := by
  apply hreach.invariant
  · intro state hempty
    rw [hempty]
    exact facts_empty
  · intro state action after facts _ hstep
    exact facts.step hstep

theorem publishable_of_reaches (hreach : Reaches (· = empty) Step CancelsPublishable db) :
    ∀ event ∈ db.events.rows, publicClause event = true → db.Publishable event := by
  induction hreach with
  | start hempty =>
      rw [hempty]
      intro event hevent
      exact absurd hevent List.not_mem_nil
  | next hreach hallowed hstep ih =>
      exact publishable_step (facts_of_reaches hreach) ih hallowed hstep

/-- Cancelling a stripped draft shows it to the public. -/
theorem cancelsPublishable_of_step (facts : EventFacts db) (hstep : db.Step action after)
    (hafter : after.PublicEventsPublishable) : db.CancelsPublishable action := by
  cases action with
  | setStatus actor eventId version status now =>
      cases status with
      | cancelled =>
          intro event hevent hid hstatus hdated
          obtain ⟨row, hrow, hsame, hlive, ⟨hcancelled, _⟩ | ⟨_, _, rfl⟩⟩ :=
            setEventStatus_eq_ok hstep
          · rw [Table.eq_of_key hrow hevent (hsame.trans hid.symm), hstatus] at hcancelled
            cases hcancelled
          · have heq : row = event := Table.eq_of_key hrow hevent (hsame.trans hid.symm)
            subst heq
            have hedited := @edited_withStatus db row actor hevent .cancelled now
            have hvisible : publicClause (touchedBy actor
                (Events.withStatus row .cancelled now)) = true :=
              publicClause_iff.mpr ⟨hlive, hdated, Or.inr rfl⟩
            have hshown := hafter.events _ hedited.mem_changed hvisible
            rw [validatePublishable_eq_ok_iff]
            exact ⟨facts.scheduled row hevent, hshown.titleEn, hshown.titleDe,
              hshown.descriptionEn, hshown.descriptionDe, hshown.schedule, hshown.cover⟩
      | _ => trivial
  | _ => trivial

/-- In a run which never cancels a stripped draft, every public event is publishable, and
the run goes on so exactly as long as it cancels none. In any run the publication instant
is set at the first publication and stays. -/
theorem publicEvents_publishable_iff (db : EventDb) :
    (Reaches (· = empty) Step CancelsPublishable db →
      db.PublicEventsPublishable ∧ ∀ action after, db.Step action after →
        (after.PublicEventsPublishable ↔ db.CancelsPublishable action)) ∧
    (Reaches (· = empty) Step (fun _ _ => True) db →
      ∀ action after, db.Step action after → db.PublishedAtKept action after) := by
  constructor
  · intro hreach
    have facts := facts_of_reaches hreach
    have hpublic := publishable_of_reaches hreach
    refine ⟨.of_events hpublic, fun action after hstep => ?_⟩
    constructor
    · exact cancelsPublishable_of_step facts hstep
    · intro hallowed
      exact .of_events (publishable_step facts hpublic hallowed hstep)
  · intro hreach action after hstep
    have facts := facts_of_reaches hreach
    exact ⟨(facts.step hstep).dated, kept_step facts hstep, set_step facts hstep⟩

end Runs

section StrippedDraft

def editor : User :=
  { id := 1, role := .admin, isActive := true, deletedAt := none, emailVerifiedAt := none,
    semesterId := none }

def welcomeContent : EventContent where
  titleEn := some "Welcome"
  titleDe := some "Willkommen"
  descriptionEn := some "First evening"
  descriptionDe := some "Erster Abend"
  startDate := none
  endDate := none
  timezone := "Asia/Ho_Chi_Minh"
  locationEn := none
  locationDe := none
  category := none
  organizer := none
  registrationUrl := none
  registrationEnabled := false
  maxParticipants := none
  registrationDeadline := none

/-- An event is published with a cover. -/
def publication : List EventAction :=
  [.create editor 7 welcomeContent,
    .uploadCover editor 7 1 9 ⟨"events/9.webp", "image/webp", 800, 600, "Guests", "Gäste"⟩,
    .setStatus editor 7 2 .published 100]

/-- It goes back to a draft, loses its titles and is cancelled. -/
def strippedCancellation : List EventAction :=
  [.setStatus editor 7 3 .draft 200,
    .update editor 7 4 { titleEn := some none, titleDe := some none } ⟨none, false⟩,
    .setStatus editor 7 5 .cancelled 300]

def step? (db : EventDb) (action : EventAction) : Option EventDb :=
  (db.next action).toOption

theorem strippedCancellation_run :
    (Reaches.run step? (fun _ _ => True) empty (publication ++ strippedCancellation)).any
      (fun db => raised (listPublicEvents some db {} 400) = some .incompleteLocalization) =
      true := by
  decide +kernel

/-- The cancelled event breaks the public list. -/
theorem not_publicEvents_publishable_strippedDraft :
    ¬ ∀ db, Reaches (· = empty) Step (fun _ _ => True) db → db.PublicEventsPublishable := by
  intro h
  obtain ⟨db, hrun, hraised⟩ := (Option.any_eq_true _ _).mp strippedCancellation_run
  have hreach : Reaches (· = empty) Step (fun _ _ => True) db :=
    Reaches.of_run ok_of_toOption (.start rfl) hrun
  exact (h db hreach).lists some {} 400 (raised_eq_some_iff.mp (of_decide_eq_true hraised))

end StrippedDraft

end EventDb

end BuddyWeb
