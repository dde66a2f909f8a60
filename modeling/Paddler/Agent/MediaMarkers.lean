import Mathlib.Data.List.Forall2
import Paddler.Library.Occurrences
import Paddler.Agent.Scheduler

/-!
# Media markers and images

A multimodal prompt has a marker where an image was.  `extract_image_urls` collects the images, and
`replace_images_with_marker` writes the markers, each in a walk of its own.  The marker is text like
any other, and the texts of the user are passed on as they are.

* `texts_replaceImagesWithMarker`, `extractImageUrls_eq` — both walks go over the same parts.
* `standsFor_markers` — the occurrences of the marker, each with the image of its part.
* `PromptLayout` — how a template lays the parts out in a prompt.
* `markers_aligned` — **the markers stand for the images, one for each and in their order, if and
  only if** no text of the user contains the marker; in a prompt, if and only if what stands between
  the images does not.
* `markers_not_aligned` — a user who writes the marker, at once or in two texts that come to stand
  next to each other, shifts the images by one.
-/

set_option autoImplicit false

namespace Paddler

open Occurrences

/-! ## The two walks -/

/-- The image of a part. -/
def ConversationMessageContentPart.image : ConversationMessageContentPart → Option ImageUrl
  | .imageUrl url => some url
  | .text _ => none

/-- What `replace_images_with_marker` makes of a part. -/
def ConversationMessageContentPart.rendered (mediaMarker : String) :
    ConversationMessageContentPart → String
  | .text content => content
  | .imageUrl _ => mediaMarker

/-- The parts of a message; a message that is a text is one part. -/
def ConversationMessageContent.allParts : ConversationMessageContent →
    List ConversationMessageContentPart
  | .text content => [.text content]
  | .parts contentParts => contentParts

/-- The parts of a conversation, in message and part order. -/
def ConversationHistory.allParts (self : ConversationHistory) :
    List ConversationMessageContentPart :=
  self.messages.flatMap fun message => message.content.allParts

/-- The texts of a message of the chat template. -/
def ChatTemplateMessageContent.texts : ChatTemplateMessageContent → List String
  | .text content => [content]
  | .parts contentParts => contentParts.map (·.text)

/-- The texts of the messages, in message and part order. -/
def chatTemplateTexts (messages : List ChatTemplateMessage) : List String :=
  messages.flatMap fun message => message.content.texts

namespace ConversationHistory

variable (self : ConversationHistory)

theorem extractImageUrls_eq : self.extractImageUrls = self.allParts.filterMap (·.image) := by
  unfold extractImageUrls allParts
  rw [List.filterMap_flatMap]
  refine List.flatMap_congr fun message _ => ?_
  cases message.content with
  | text content => rfl
  | parts contentParts =>
    refine List.filterMap_congr fun part _ => ?_
    cases part <;> rfl

/-- `replace_images_with_marker` walks over the same parts. -/
theorem texts_replaceImagesWithMarker (mediaMarker : String) :
    chatTemplateTexts (self.replaceImagesWithMarker mediaMarker) =
      self.allParts.map (·.rendered mediaMarker) := by
  unfold chatTemplateTexts replaceImagesWithMarker allParts
  rw [List.flatMap_map, List.map_flatMap]
  refine List.flatMap_congr fun message _ => ?_
  cases message.content with
  | text content => rfl
  | parts contentParts =>
    refine (List.map_map ..).trans (List.map_congr_left fun part _ => ?_)
    cases part <;> rfl

end ConversationHistory

/-- The occurrences of the marker: the text, and where the marker stands in it. -/
def markerOccurrences (mediaMarker : String) (texts : List String) : List (Nat × Nat) :=
  texts.zipIdx.flatMap fun entry =>
    (occurrences mediaMarker.toList entry.1.toList).map fun offset => (entry.2, offset)

/-- The occurrences of the marker in the texts of a conversation, in message and part order. -/
def ConversationHistory.markers (self : ConversationHistory) (mediaMarker : String) :
    List (Nat × Nat) :=
  markerOccurrences mediaMarker (chatTemplateTexts (self.replaceImagesWithMarker mediaMarker))

/-- The image that an occurrence of the marker was written for. -/
def ConversationHistory.standsFor (self : ConversationHistory) (occurrence : Nat × Nat) :
    Option ImageUrl :=
  self.allParts[occurrence.1]?.bind (·.image)

/-- **Every occurrence of the marker with the image of its part**: the occurrences part by part. -/
theorem ConversationHistory.standsFor_markers (self : ConversationHistory) (mediaMarker : String) :
    (self.markers mediaMarker).map self.standsFor =
      self.allParts.flatMap fun part =>
        (occurrences mediaMarker.toList (part.rendered mediaMarker).toList).map fun _ =>
          part.image := by
  have hparts : self.allParts = self.allParts.zipIdx.map Prod.fst := (List.zipIdx_map_fst ..).symm
  rw [markers, self.texts_replaceImagesWithMarker, markerOccurrences, List.zipIdx_map,
    List.flatMap_map, List.map_flatMap]
  conv_rhs => rw [hparts, List.flatMap_map]
  refine List.flatMap_congr fun entry hentry => ?_
  have hpart : self.allParts[entry.2]? = some entry.1 := List.mem_zipIdx_iff_getElem?.mp hentry
  rw [List.map_map]
  refine List.map_congr_left fun offset _ => ?_
  show self.allParts[entry.2]?.bind (·.image) = entry.1.image
  rw [hpart]
  rfl

/-! ## Alignment -/

/-- No text of the user contains the marker. -/
def ConversationHistory.FreeOf (self : ConversationHistory) (mediaMarker : String) : Prop :=
  ∀ text, .text text ∈ self.allParts → ¬ mediaMarker.toList <:+: text.toList

variable {mediaMarker : String}

/-- The images of the occurrences in one part: the image of the part, and nothing for the texts of
the user. -/
theorem rendered_images (hmarker : mediaMarker ≠ "") (part : ConversationMessageContentPart) :
    ((occurrences mediaMarker.toList (part.rendered mediaMarker).toList).map fun _ =>
      part.image).filterMap id = part.image.toList := by
  have hpattern : mediaMarker.toList ≠ [] := by simpa using hmarker
  cases part with
  | text content =>
    refine List.filterMap_eq_nil_iff.mpr fun image himage => ?_
    obtain ⟨offset, -, rfl⟩ := List.mem_map.mp himage
    rfl
  | imageUrl url =>
    rw [ConversationMessageContentPart.rendered, occurrences_self hpattern]
    rfl

/-- In a part that is no text with a marker in it the marker stands for the image, if there is
one. -/
theorem rendered_aligned (hmarker : mediaMarker ≠ "") {part : ConversationMessageContentPart}
    (hfree : ∀ text, part = .text text → ¬ mediaMarker.toList <:+: text.toList) :
    ((occurrences mediaMarker.toList (part.rendered mediaMarker).toList).map fun _ => part.image) =
      part.image.toList.map some := by
  have hpattern : mediaMarker.toList ≠ [] := by simpa using hmarker
  cases part with
  | text content =>
    rw [ConversationMessageContentPart.rendered,
      (occurrences_eq_nil_iff hpattern content.toList).mpr (hfree content rfl)]
    rfl
  | imageUrl url =>
    rw [ConversationMessageContentPart.rendered, occurrences_self hpattern]
    rfl

theorem decodeImages_forall₂ {C : Type} {answers : AcceptanceAnswers C} {imageResizeToFit : Nat} :
    ∀ {imageUrls : List ImageUrl} {images : List DecodedImage},
      decodeImages answers imageResizeToFit imageUrls = .ok images →
      List.Forall₂ (fun url image => answers.decodeImage url imageResizeToFit = .ok image)
        imageUrls images
  | [], images, h => by
    cases h
    exact .nil
  | imageUrl :: imageUrls, images, h => by
    unfold decodeImages at h
    split at h
    · cases h
    · rename_i image himage
      split at h
      · cases h
      · rename_i rest hrest
        cases h
        exact .cons himage (decodeImages_forall₂ hrest)

theorem prepareConversationHistoryRequest_multimodal {C : Type}
    {ctx : ContinuousBatchSchedulerContext C} {answers : AcceptanceAnswers C}
    {params : ContinueFromConversationHistoryParams} {tx tx' : Sender GeneratedTokenResult}
    {rawPrompt : String} {images : List DecodedImage} {maxTokens : Int}
    {grammarSampler : Option GrammarSampler} {parseToolCalls : Bool} {tools : List Tool}
    (h : prepareConversationHistoryRequest ctx answers params tx =
      (.ok (.multimodalPrompt rawPrompt images maxTokens grammarSampler parseToolCalls tools), tx')) :
    decodeImages answers ctx.inferenceParameters.imageResizeToFit
      params.conversationHistory.extractImageUrls =
        .ok images ∧
      ∃ mediaMarker, answers.mtmdDefaultMarker = .ok mediaMarker ∧
        answers.render params.addGenerationPrompt params.enableThinking
          (params.conversationHistory.replaceImagesWithMarker mediaMarker) params.tools =
            .ok rawPrompt := by
  unfold prepareConversationHistoryRequest at h
  split at h
  · cases h
  · split at h
    · cases h
    · rename_i images' himages
      split at h
      · cases h
      · rename_i mediaMarker hmarker
        dsimp only at h
        split at h
        · cases h
        · split at h
          · cases h
          · rename_i rawPrompt' hrender
            split at h
            · cases h
            · split at h
              · cases h
                exact ⟨himages, mediaMarker, hmarker, hrender⟩
              · cases h

/-! ## The prompt -/

/-- How a template lays out parts: each once and in their order, with text of its own before all and
behind each. -/
structure PromptLayout (parts : List ConversationMessageContentPart) where
  opening : String
  entries : List (ConversationMessageContentPart × String)
  parts_eq : entries.map (·.1) = parts

/-- The text of some parts, with the template's behind each. -/
def laidOut (mediaMarker : String) (entries : List (ConversationMessageContentPart × String)) :
    List Char :=
  entries.flatMap fun entry => (entry.1.rendered mediaMarker).toList ++ entry.2.toList

/-- What stands before each image, and what stands behind the last; `piece` is there already. -/
def piecesOf : List Char → List (ConversationMessageContentPart × String) →
    List (List Char) × List Char
  | piece, [] => ([], piece)
  | piece, (.text content, own) :: entries =>
    piecesOf (piece ++ content.toList ++ own.toList) entries
  | piece, (.imageUrl _, own) :: entries =>
    (piece :: (piecesOf own.toList entries).1, (piecesOf own.toList entries).2)

/-- The images, each with the place at which its marker is written. -/
def imagesAt (mediaMarker : String) : Nat → List (ConversationMessageContentPart × String) →
    List (Nat × ImageUrl)
  | _, [] => []
  | start, (.text content, own) :: entries =>
    imagesAt mediaMarker (start + content.toList.length + own.toList.length) entries
  | start, (.imageUrl url, own) :: entries =>
    (start, url) :: imagesAt mediaMarker (start + mediaMarker.toList.length +
      own.toList.length) entries

namespace PromptLayout

variable {parts : List ConversationMessageContentPart} (layout : PromptLayout parts)

def prompt (mediaMarker : String) : List Char :=
  layout.opening.toList ++ laidOut mediaMarker layout.entries

def images (mediaMarker : String) : List (Nat × ImageUrl) :=
  imagesAt mediaMarker layout.opening.toList.length layout.entries

/-- What stands before each image is clear of the marker, and what stands behind the last does not
contain it. -/
def Separates (mediaMarker : String) : Prop :=
  (∀ piece ∈ (piecesOf layout.opening.toList layout.entries).1, Clear mediaMarker.toList piece) ∧
    ¬ mediaMarker.toList <:+: (piecesOf layout.opening.toList layout.entries).2

end PromptLayout

/-- Between the pieces there are the markers of the images. -/
theorem laidOut_eq_written (mediaMarker : String) :
    ∀ (entries : List (ConversationMessageContentPart × String)) (piece : List Char),
      piece ++ laidOut mediaMarker entries =
        written mediaMarker.toList (piecesOf piece entries).1 (piecesOf piece entries).2
  | [], piece => by simp [laidOut, piecesOf, written]
  | (.text content, own) :: entries, piece => by
    rw [piecesOf, ← laidOut_eq_written mediaMarker entries]
    simp [laidOut, ConversationMessageContentPart.rendered]
  | (.imageUrl url, own) :: entries, piece => by
    have hrest := laidOut_eq_written mediaMarker entries own.toList
    simp only [written] at hrest
    simp [laidOut, piecesOf, written, ConversationMessageContentPart.rendered, ← hrest]

theorem imagesAt_fst (mediaMarker : String) :
    ∀ (entries : List (ConversationMessageContentPart × String)) (piece : List Char) (start : Nat),
      (imagesAt mediaMarker (start + piece.length) entries).map (·.1) =
        writtenAt mediaMarker.toList start (piecesOf piece entries).1
  | [], _, _ => rfl
  | (.text content, own) :: entries, piece, start => by
    rw [piecesOf, imagesAt, ← imagesAt_fst mediaMarker entries]
    simp only [List.length_append, Nat.add_assoc]
  | (.imageUrl url, own) :: entries, piece, start => by
    rw [piecesOf, imagesAt, List.map_cons, writtenAt, ← imagesAt_fst mediaMarker entries]

theorem imagesAt_snd (mediaMarker : String) :
    ∀ (entries : List (ConversationMessageContentPart × String)) (start : Nat),
      (imagesAt mediaMarker start entries).map (·.2) = (entries.map (·.1)).filterMap (·.image)
  | [], _ => rfl
  | (.text _, _) :: entries, _ => imagesAt_snd mediaMarker entries _
  | (.imageUrl url, _) :: entries, _ => congrArg (url :: ·) (imagesAt_snd mediaMarker entries _)

namespace PromptLayout

variable {parts : List ConversationMessageContentPart} (layout : PromptLayout parts)

/-- **The markers that are found in a prompt are those of the images**, if and only if nothing else
is one. -/
theorem found_prompt_iff (hmarker : mediaMarker ≠ "") :
    found mediaMarker.toList 0 0 (layout.prompt mediaMarker) =
      (layout.images mediaMarker).map (·.1) ↔
      layout.Separates mediaMarker := by
  have hpattern : mediaMarker.toList ≠ [] := by simpa using hmarker
  have hplaces := imagesAt_fst mediaMarker layout.entries layout.opening.toList 0
  rw [Nat.zero_add] at hplaces
  rw [prompt, laidOut_eq_written, images, hplaces]
  exact found_eq_writtenAt_iff hpattern _ _ 0

/-- A marker of which no end begins it is not found in pieces that do not contain it. -/
theorem separates_iff_of_borderless (hmarker : mediaMarker ≠ "")
    (hborder : Borderless mediaMarker.toList) :
    layout.Separates mediaMarker ↔
      (∀ piece ∈ (piecesOf layout.opening.toList layout.entries).1,
        ¬ mediaMarker.toList <:+: piece) ∧
        ¬ mediaMarker.toList <:+: (piecesOf layout.opening.toList layout.entries).2 := by
  have hpattern : mediaMarker.toList ≠ [] := by simpa using hmarker
  refine and_congr_left' (forall₂_congr fun piece _ => clear_iff_not_infix hpattern hborder piece)

end PromptLayout

namespace ConversationHistory

variable (self : ConversationHistory)

theorem extractImageUrls_eq_flatMap :
    self.extractImageUrls = self.allParts.flatMap fun part => part.image.toList := by
  rw [self.extractImageUrls_eq, List.filterMap_eq_flatMap_toList]

/-- The occurrences that the user did not write are one for each image. -/
theorem filterMap_standsFor (hmarker : mediaMarker ≠ "") :
    (self.markers mediaMarker).filterMap self.standsFor = self.extractImageUrls := by
  calc (self.markers mediaMarker).filterMap self.standsFor
      = ((self.markers mediaMarker).map self.standsFor).filterMap id := by
        rw [List.filterMap_map]
        rfl
    _ = self.allParts.flatMap fun part => part.image.toList := by
        rw [self.standsFor_markers, List.filterMap_flatMap]
        exact List.flatMap_congr fun part _ => rendered_images hmarker part
    _ = self.extractImageUrls := self.extractImageUrls_eq_flatMap.symm

/-- **The markers stand for the images one by one if and only if the user wrote none.** -/
theorem map_standsFor_iff (hmarker : mediaMarker ≠ "") :
    (self.markers mediaMarker).map self.standsFor = self.extractImageUrls.map some ↔
      self.FreeOf mediaMarker := by
  rw [self.standsFor_markers, self.extractImageUrls_eq_flatMap, List.map_flatMap]
  constructor
  · intro hsame text htext hinfix
    -- the marker in the text stands for no image
    have hpattern : mediaMarker.toList ≠ [] := by simpa using hmarker
    have hstray := mt (occurrences_eq_nil_iff hpattern text.toList).mp (not_not.mpr hinfix)
    obtain ⟨offset, hoffset⟩ := List.exists_mem_of_ne_nil _ hstray
    have hnone : none ∈ self.allParts.flatMap fun part => part.image.toList.map some := by
      rw [← hsame]
      exact List.mem_flatMap.mpr ⟨.text text, htext, List.mem_map.mpr ⟨offset, hoffset, rfl⟩⟩
    obtain ⟨part, -, hpart⟩ := List.mem_flatMap.mp hnone
    obtain ⟨url, -, hurl⟩ := List.mem_map.mp hpart
    cases hurl
  · intro hfree
    refine List.flatMap_congr fun part hpart => rendered_aligned hmarker ?_
    rintro text rfl
    exact hfree text hpart

theorem images_snd (layout : PromptLayout self.allParts) (mediaMarker : String) :
    (layout.images mediaMarker).map (·.2) = self.extractImageUrls := by
  rw [PromptLayout.images, imagesAt_snd, layout.parts_eq, self.extractImageUrls_eq]

end ConversationHistory

/-- **The occurrences of the marker and the images.**  Those that the user did not write are one for
each image, in the order of `extract_image_urls`.  The markers stand for the images one by one if
and only if the user wrote none.  In a prompt that has each part once and in order, the markers that
are found from left to right are those of the images, if and only if no more of them come about
between the images; the k-th image of the prompt is the k-th decoded one. -/
theorem markers_aligned (self : ConversationHistory) (hmarker : mediaMarker ≠ "") :
    (self.markers mediaMarker).filterMap self.standsFor = self.extractImageUrls ∧
    ((self.markers mediaMarker).map self.standsFor = self.extractImageUrls.map some ↔
      self.FreeOf mediaMarker) ∧
    (∀ layout : PromptLayout self.allParts,
      (layout.images mediaMarker).map (·.2) = self.extractImageUrls ∧
      (found mediaMarker.toList 0 0 (layout.prompt mediaMarker) =
        (layout.images mediaMarker).map (·.1) ↔
        layout.Separates mediaMarker) ∧
      (Borderless mediaMarker.toList → (layout.Separates mediaMarker ↔
        (∀ piece ∈ (piecesOf layout.opening.toList layout.entries).1,
          ¬ mediaMarker.toList <:+: piece) ∧
          ¬ mediaMarker.toList <:+: (piecesOf layout.opening.toList layout.entries).2))) ∧
    ∀ {C : Type} (ctx : ContinuousBatchSchedulerContext C)
      (answers : AcceptanceAnswers C) (params : ContinueFromConversationHistoryParams)
      (tx tx' : Sender GeneratedTokenResult) (rawPrompt : String) (images : List DecodedImage)
        (maxTokens : Int)
      (grammarSampler : Option GrammarSampler) (parseToolCalls : Bool) (tools : List Tool),
      params.conversationHistory = self → answers.mtmdDefaultMarker = .ok mediaMarker →
      prepareConversationHistoryRequest ctx answers params tx =
        (.ok (.multimodalPrompt rawPrompt images maxTokens grammarSampler parseToolCalls tools), tx') →
      answers.render params.addGenerationPrompt params.enableThinking
          (self.replaceImagesWithMarker mediaMarker) params.tools = .ok rawPrompt ∧
        ∀ layout : PromptLayout self.allParts, layout.prompt mediaMarker = rawPrompt.toList →
          layout.Separates mediaMarker →
          found mediaMarker.toList 0 0 rawPrompt.toList = (layout.images mediaMarker).map (·.1) ∧
          List.Forall₂
            (fun entry image =>
              answers.decodeImage entry.2 ctx.inferenceParameters.imageResizeToFit = .ok image)
            (layout.images mediaMarker) images := by
  refine ⟨self.filterMap_standsFor hmarker, self.map_standsFor_iff hmarker, fun layout =>
    ⟨self.images_snd layout mediaMarker, layout.found_prompt_iff hmarker,
      layout.separates_iff_of_borderless hmarker⟩, ?_⟩
  intro C ctx answers params tx tx' rawPrompt images maxTokens grammarSampler parseToolCalls tools
    hhistory hdefault hprepared
  obtain ⟨hdecoded, marker, hmarker', hrender⟩ :=
    prepareConversationHistoryRequest_multimodal hprepared
  subst hhistory
  cases hdefault.symm.trans hmarker'
  refine ⟨hrender, fun layout hprompt hseparates => ⟨?_, ?_⟩⟩
  · rw [← hprompt]
    exact (layout.found_prompt_iff hmarker).mpr hseparates
  · rw [← params.conversationHistory.images_snd layout mediaMarker] at hdecoded
    exact List.forall₂_map_left_iff.mp (decodeImages_forall₂ hdecoded)

/-- A text, an image and another text. -/
def lookAtThis : ContinueFromConversationHistoryParams :=
  ⟨true, ⟨[⟨.parts [.text "look at this", .imageUrl ⟨"data:"⟩, .text "please"], "user"⟩]⟩,
    false, none, 8, false, []⟩

/-- A template writes the role before the parts and an end behind them. -/
def lookAtThisLayout : PromptLayout lookAtThis.conversationHistory.allParts where
  opening := "user:"
  entries := [(.text "look at this", ""), (.imageUrl ⟨"data:"⟩, ""), (.text "please", ";")]
  parts_eq := rfl

def lookAtThisAnswers : AcceptanceAnswers Unit :=
  { smallAnswers.acceptance with render := fun _ _ _ _ => .ok "user:look at this<image>please;" }

theorem markers_aligned_lookAtThis :
    (lookAtThis.conversationHistory.markers "<image>").map
      lookAtThis.conversationHistory.standsFor =
        [some ⟨"data:"⟩] ∧
      found "<image>".toList 0 0 "user:look at this<image>please;".toList = [17] ∧
      lookAtThisAnswers.decodeImage ⟨"data:"⟩ 512 = .ok ⟨[]⟩ := by
  have hfree : lookAtThis.conversationHistory.FreeOf "<image>" := by
    intro text htext
    simp only [lookAtThis, ConversationHistory.allParts, ConversationMessageContent.allParts,
      List.flatMap_cons, List.flatMap_nil, List.append_nil, List.mem_cons,
      ConversationMessageContentPart.text.injEq, reduceCtorEq, List.not_mem_nil, or_false,
      false_or] at htext
    rcases htext with rfl | rfl
    · decide
    · decide
  have haligned := markers_aligned lookAtThis.conversationHistory (show "<image>" ≠ "" by decide)
  have hseparates : lookAtThisLayout.Separates "<image>" := by
    refine ⟨?_, ?_⟩ <;> decide
  obtain ⟨hfound, hdecoded⟩ :=
    (haligned.2.2.2 smallContext lookAtThisAnswers lookAtThis
      (.new 0 none) _ "user:look at this<image>please;" [⟨[]⟩] 8 none false [] rfl rfl rfl).2
      lookAtThisLayout (by decide) hseparates
  refine ⟨haligned.2.1.mpr hfree, hfound, ?_⟩
  cases hdecoded with
  | cons hhead _ => exact hhead

/-- A user who writes the marker before an image. -/
def writtenMarker : ConversationHistory :=
  ⟨[⟨.parts [.text "what is <__media__>?", .imageUrl ⟨"data:"⟩], "user"⟩]⟩

/-- A user who writes it in two texts. -/
def dividedMarker : ConversationHistory :=
  ⟨[⟨.parts [.text "what is <__me", .text "dia__>?", .imageUrl ⟨"data:"⟩], "user"⟩]⟩

/-- A template that writes nothing of its own. -/
def dividedLayout : PromptLayout dividedMarker.allParts where
  opening := ""
  entries := [(.text "what is <__me", ""), (.text "dia__>?", ""), (.imageUrl ⟨"data:"⟩, "")]
  parts_eq := rfl

/-- One image and two markers; the first of them stands for no image, and is found in a prompt, too,
if the texts that hold its parts come to stand next to each other. -/
theorem markers_not_aligned :
    writtenMarker.extractImageUrls = [⟨"data:"⟩] ∧
      writtenMarker.markers "<__media__>" = [(0, 8), (1, 0)] ∧
      (writtenMarker.markers "<__media__>").map writtenMarker.standsFor = [none, some ⟨"data:"⟩] ∧
      (dividedMarker.markers "<__media__>").map dividedMarker.standsFor = [some ⟨"data:"⟩] ∧
      found "<__media__>".toList 0 0 (dividedLayout.prompt "<__media__>") = [8, 20] ∧
      dividedLayout.images "<__media__>" = [(20, ⟨"data:"⟩)] := by
  decide

end Paddler
