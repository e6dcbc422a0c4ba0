import Uam.ParamFiles
import Uam.ParamRefinement
import Uam.BsonWriters

/-! What a saved parameter file is worth: whether the check accepts it, and what loading it gives back. -/
namespace AerialManipulator
open Bytes BsonEncoder BsonDecoder ParamStore Binary32 Option ParamType BsonEntry BsonBackend Runs

namespace ParamTable
variable {table : ParamTable} {p : Nat} {info : ParamInfo}

lemma findLoop_finds (known : table.parameters[p]? = some info) (above : front ≤ p)
    (below : p < last) (inside : last ≤ table.parameters.length) (enough : last-front ≤ fuel) :
    table.findLoop info.name.text fuel front last = some p := by
  induction fuel generalizing front last with
  | zero => omega
  | succ fuel ih =>
    obtain ⟨other,there⟩ : ∃ other, table.parameters[front + (last - front) / 2]? = some other :=
      ⟨_,List.getElem?_eq_getElem (by omega : front + (last - front) / 2 < table.parameters.length)⟩
    have key : info.name.text.map BitVec.toNat = info.key := rfl
    simp only [findLoop,if_pos (by omega : front ≤ last),there,bind_some,key]
    rcases Nat.lt_trichotomy p (front + (last - front) / 2) with less | same | more
    · have order := table.sorted.key_lt less known there
      rw [if_neg order.ne,if_neg (by omega),if_pos order]
      exact ih above less (by omega) (by omega)
    · rw [← same,known,some_inj] at there
      rw [if_pos (there ▸ rfl),same]
    · have order := table.sorted.key_lt more there known
      rw [if_neg order.ne']
      -- The front has not been reached: otherwise nothing would be left above it.
      by_cases first : front + (last - front) / 2 = front
      · omega
      · rw [if_neg first,if_neg order.not_gt]
        exact ih (by omega) below inside (by omega)

lemma paramFind_name (known : table.parameters[p]? = some info) :
    table.paramFindNoNotification info.name.text = some p := by
  have inRange : p < table.parameters.length := (List.getElem?_eq_some_iff.mp known).1
  exact findLoop_finds known (Nat.zero_le p) inRange le_rfl (by omega)

end ParamTable

structure BsonEntry.Fits (entry : BsonEntry) : Prop where
  name : entry.name.text.length ≤ 16
  value : ∀ chunk ∈ entry.value.chunks, chunk.length ≤ 256
  scalar : entry.value.data = []

lemma encode_fits (fit : ∀ entry ∈ entries, entry.Fits) (old : List Byte) :
    ∃ e, (bufferedFile old 256).encodeEntries entries = some e := by
  refine encodeEntries_ready (.inr ⟨old,256,by decide,rfl⟩) ?_ ?_
  · intro entry member
    exact (fit entry member).name.trans (by decide)
  intro entry member chunk written
  rw [writes,List.mem_cons,List.mem_cons] at written
  rcases written with rfl | rfl | value
  · simp [Takes]
  · have := (fit entry member).name
    simp only [Takes,List.length_append,List.length_singleton]
    omega
  · exact (fit entry member).value chunk value

lemma agrees_comm (type : ParamType) (a b : BitVec 32) : type.agrees a b = type.agrees b a := by
  cases type with
  | int32 => exact Bool.beq_comm
  | float => rw [agrees,agrees,absSub_comm]

namespace ParamTable
variable {table : ParamTable} {s t : ParamStore} {p : Nat} {info : ParamInfo} {w : ParamWbuf} {node : BsonEntry}

structure Sound (table : ParamTable) (s : ParamStore) : Prop where
  consistent : Consistent s
  numbers : Numbers table.parameters s
  known : ∀ p w, valueIn s.values p = some w → ∃ info, table.parameters[p]? = some info

lemma valueAfter_known {parameters : List ParamInfo} {value : Nat → Option (BitVec 32)} {call : ParamCall} {w : BitVec 32}
    (known : ∀ w, value p = some w → ∃ info, parameters[p]? = some info)
    (stored : valueAfter parameters value call p = some w) : ∃ info, parameters[p]? = some info := by
  have setting (q : Nat) (val : Option (BitVec 32))
      (stored : (parameters[q]?.elim value fun info => val.elim value fun w =>
        Function.update value q (some (settled info (value q) w))) p = some w) : ∃ info, parameters[p]? = some info := by
    by_cases same : q = p
    · subst same
      cases found : parameters[q]? with
      | none =>
        rw [found] at stored
        exact found ▸ known w stored
      | some info => exact ⟨info,rfl⟩
    · rw [update_elim_ne same] at stored
      exact known w stored
  cases call with
  | set q val | setNoNotification q val => exact setting q val stored
  | setDefaultValue q val => exact known w stored
  | reset q =>
    by_cases same : q = p
    · subst same
      cases found : parameters[q]? with
      | none =>
        rw [valueAfter,found] at stored
        exact found ▸ known w stored
      | some info => exact ⟨info,rfl⟩
    · have kept := update_elim_ne same parameters[q]? (some ()) value fun _ _ => none
      exact known w (kept.symm.trans stored)
  | resetAll => cases stored

lemma Sound.step (sound : Sound table s) (call : ParamCall) : Sound table (s.step table.parameters call) := by
  have becomes := sound.consistent.step table.parameters call
  refine ⟨becomes.consistent,sound.numbers.step sound.consistent call,?_⟩
  intro p w stored
  rw [becomes.value] at stored
  exact valueAfter_known (sound.known p) stored

lemma sound_run (table : ParamTable) (calls : List ParamCall) :
    Sound table (calls.foldl (step table.parameters) initial) := by
  apply foldl_history (fun _ s => Sound table s)
  · refine ⟨consistent_initial,?_,?_⟩
    · intro p info w _ _ stored
      cases stored
    · intro p w stored
      cases stored
  · exact fun _ call sound => sound.step call

lemma exported_eq (out : table.exported s (fun _ => true) w = some node) :
    ∃ info, table.parameters[w.param]? = some info ∧ node = ⟨info.name,bsonValue info.type w.val⟩ := by
  simp only [ParamTable.exported,Bool.not_true,Bool.false_eq_true,if_false] at out
  obtain ⟨info,known,out⟩ := bind_eq_some_iff.mp out
  split at out
  · cases out
  · cases out
    exact ⟨info,known,rfl⟩

lemma bsonValue_fits (type : ParamType) (val : BitVec 32) :
    (∀ chunk ∈ (bsonValue type val).chunks, chunk.length ≤ 256) ∧ (bsonValue type val).data = [] := by
  cases type <;> simp [bsonValue,BsonValue.chunks,BsonValue.head,BsonValue.data]

lemma exported_fits (out : table.exported s (fun _ => true) w = some node) : node.Fits := by
  obtain ⟨info,known,rfl⟩ := exported_eq out
  obtain ⟨chunks,scalar⟩ := bsonValue_fits info.type w.val
  exact ⟨table.short info (List.mem_of_getElem? known),chunks,scalar⟩

def nodes (table : ParamTable) (s : ParamStore) : List BsonEntry := s.values.filterMap (table.exported s fun _ => true)

lemma nodes_fit : ∀ node ∈ table.nodes s, node.Fits := by
  intro node member
  obtain ⟨w,_,exported⟩ := List.mem_filterMap.mp member
  exact exported_fits exported

lemma export_writes (table : ParamTable) (s : ParamStore) (old : List Byte) :
    ∃ file d, table.paramExportInternal s ⟨old,0⟩ (fun _ => true) = some file ∧
      bsonDecoderInitFile (file.seek 0) = some d ∧
      d.Between 4 ((table.nodes s).flatMap bytes ++ [bsonEoo]) ∧
      d.totalDocumentSize = BitVec.ofNat 32 (4+((table.nodes s).flatMap bytes).length+1) ∧
      (table.nodes s).length < file.content.length+1 := by
  obtain ⟨e,encoded⟩ := encode_fits (table.nodes_fit (s := s)) old
  obtain ⟨_,stored,_,place⟩ := stored_encodeEntries encoded
  obtain ⟨file,fd⟩ : ∃ file, e.fd = some file := by
    rw [← ne_none_iff_exists']
    intro missing
    cases place.mp missing
  have written : table.paramExportInternal s ⟨old,0⟩ (fun _ => true) = some file := by
    have chained : table.paramExportInternal s ⟨old,0⟩ (fun _ => true) =
        ((bufferedFile old 256).encodeEntries (table.nodes s)).bind (·.fd) := by
      rw [encodeEntries,bind_assoc]
      simp only [bind_assoc]
      rfl
    rw [chained,encoded,bind_some,fd]
  have content : file.content = e.stored := by rw [BsonEncoder.stored,fd,elim_some]
  obtain ⟨d,started,between,size⟩ := init_file file.content _
    (by rw [content,stored,overlay]; exact List.prefix_append _ _) (by simp)
  refine ⟨file,d,written,started,between,?_,?_⟩
  · rw [size]
    simp [countedSize,bsonDocumentSize,bsonDocument,Nat.add_assoc]
  · have := entries_length_le (table.nodes s)
    rw [content,stored,overlay]
    simp only [List.length_append]
    omega

section
variable (sound : Sound table s) (member : w ∈ s.values) (known : table.parameters[w.param]? = some info)
include sound member known

lemma get_stored : s.paramGet table.parameters w.param = some w.val := by
  have stored : valueIn s.values w.param = some w.val := (valueIn_eq_some sound.consistent.changed.sorted).mpr member
  rw [sound.consistent.get,known,stored]
  rfl

lemma stored_number (float : info.type = .float) : isNan w.val = false :=
  sound.numbers w.param info w.val known float ((valueIn_eq_some sound.consistent.changed.sorted).mpr member)

end

def Infinite (table : ParamTable) (w : ParamWbuf) : Prop :=
  ∃ info, table.parameters[w.param]? = some info ∧ info.type = .float ∧ Binary32.isInf w.val = true

lemma seen_bsonValue (type : ParamType) (val : BitVec 32) :
    (bsonValue type val).seen = if type = .int32 then .int32 val else .double (widen val) := by
  cases type <;> rfl

variable {d : BsonDecoder}

section
variable (sound : Sound table s) (member : w ∈ s.values) (known : table.parameters[w.param]? = some info)
include sound member known

lemma verify_stored (name : d.name = info.name.text) (item : d.item = (bsonValue info.type w.val).seen) :
    table.paramVerifyCallback s d () = (if info.type.agrees w.val w.val then 1 else -1,d,()) := by
  rw [seen_bsonValue] at item
  cases type : info.type with
  | int32 =>
    rw [type,if_pos rfl] at item
    simp [paramVerifyCallback,name,item,paramFind_name known,known,type,get_stored sound member known,
      agrees]
  | float =>
    rw [type,if_neg (by decide)] at item
    simp [paramVerifyCallback,name,item,paramFind_name known,known,type,get_stored sound member known,
      agrees,narrow_widen (stored_number sound member known type)]
    rfl

lemma agrees_self : info.type.agrees w.val w.val ↔ ¬table.Infinite w := by
  cases type : info.type with
  | int32 => simp [agrees,Infinite,known,type]
  | float =>
    have number := stored_number sound member known type
    simp only [agrees,Infinite,known,some_inj,exists_eq_left',type,true_and,Bool.not_eq_true]
    cases infinite : isInf w.val with
    | false =>
      rw [absSub_self ((isFinite_iff _).mpr ⟨number,infinite⟩)]
      simp [Binary32.Magnitude.atMost]
    | true =>
      rw [absSub_inf infinite]
      simp [Binary32.Magnitude.atMost]

end

lemma verify_ends (s : ParamStore) (d : BsonDecoder) (state : Unit) (ended : d.item = .eoo) :
    table.paramVerifyCallback s d state = (0,d,state) := by
  rw [paramVerifyCallback,if_pos ended]

lemma handles_scalar {σ : Type*} {callback : BsonDecoder → σ → Int × BsonDecoder × σ} {apply : σ → BsonEntry → σ}
    (scalar : node.value.data = [])
    (called : ∀ d state, d.name = node.name.text → d.item = node.value.seen →
      callback d state = (1,d,apply state node)) : Handles callback apply (fun _ _ => True) node := by
  intro d place rest state reading inside name item pending _
  rw [scalar] at reading pending ⊢
  have idle : d.pending = 0 := pending
  refine ⟨d,called d state name item,reading,?_⟩
  rw [Moved,← idle]

lemma nodes_short (node : BsonEntry) (member : node ∈ table.nodes s) : node.name.text.length < bsonMaxname := by
  have := (nodes_fit node member).name
  simp only [bsonMaxname]
  omega

section
variable (sound : Sound table s) (member : w ∈ s.values) (exported : table.exported s (fun _ => true) w = some node)
include sound member exported

lemma verify_accepts (fine : ¬table.Infinite w) :
    Handles (table.paramVerifyCallback s) (fun state _ => state) (fun _ _ => True) node := by
  obtain ⟨info,known,rfl⟩ := exported_eq exported
  refine handles_scalar (exported_fits exported).scalar fun d state name item => ?_
  rw [verify_stored sound member known name item,if_pos ((agrees_self sound member known).mpr fine)]

lemma verify_refuses (infinite : table.Infinite w) (between : d.Between place (node.bytes ++ rest)) :
    (bsonDecoderNext (table.paramVerifyCallback s) d ()).1 = -1 := by
  have short := nodes_short node (List.mem_filterMap.mpr ⟨w,member,exported⟩)
  obtain ⟨info,known,rfl⟩ := exported_eq exported
  obtain ⟨d',next,_,moved⟩ := next_entry (table.paramVerifyCallback s) () short between
  have fields : d'.name = info.name.text ∧ d'.item = (bsonValue info.type w.val).seen := by
    rw [moved]
    exact ⟨rfl,rfl⟩
  have wrong : ¬info.type.agrees w.val w.val := fun same => (agrees_self sound member known).mp same infinite
  rw [next,verify_stored sound member known fields.1 fields.2,if_neg wrong]

end

lemma verify_stops (sound : Sound table s) (between : d.Between place ((table.nodes s).flatMap bytes ++ rest))
    (wrong : ∃ w ∈ s.values, (table.exported s (fun _ => true) w).isSome ∧ table.Infinite w)
    (enough : (table.nodes s).length < fuel) :
    (decodeLoop (table.paramVerifyCallback s) fuel d ()).1 = -1 := by
  obtain ⟨before,w,after,split,⟨some_,infinite⟩,fine⟩ := exists_first wrong
  obtain ⟨node,exported⟩ := isSome_iff_exists.mp some_
  have member : w ∈ s.values := by simp [split]
  have cut : table.nodes s = before.filterMap (table.exported s fun _ => true) ++
      node::after.filterMap (table.exported s fun _ => true) := by
    rw [nodes,split,List.filterMap_append,List.filterMap_cons_some exported]
  have short (node : BsonEntry) (inside : node ∈ before.filterMap (table.exported s fun _ => true)) :
      node.name.text.length < bsonMaxname :=
    nodes_short node (cut ▸ List.mem_append_left _ inside)
  have handled (node : BsonEntry) (inside : node ∈ before.filterMap (table.exported s fun _ => true)) :
      Handles (table.paramVerifyCallback s) (fun state _ => state) (fun _ _ => True) node := by
    obtain ⟨w',inside,exported⟩ := List.mem_filterMap.mp inside
    refine verify_accepts sound (by simp [split,inside]) exported fun infinite => ?_
    exact fine w' inside ⟨by rw [exported]; rfl,infinite⟩
  rw [cut,List.flatMap_append,List.append_assoc,List.flatMap_cons,List.append_assoc] at between
  refine decodeLoop_stops short handled (along_of_forall (fun _ _ => trivial) () _) between (by decide) ?_
    (by rw [cut] at enough; simp at enough; omega)
  intro d place between
  exact verify_refuses sound member exported infinite between

lemma verify_iff (sound : Sound table s) {file : File} (started : bsonDecoderInitFile (file.seek 0) = some d)
    (between : d.Between 4 ((table.nodes s).flatMap bytes ++ [bsonEoo]))
    (size : d.totalDocumentSize = BitVec.ofNat 32 (4+((table.nodes s).flatMap bytes).length+1))
    (enough : (table.nodes s).length < file.content.length+1) :
    table.paramVerify s file = 0 ↔
      ∀ w ∈ s.values, (table.exported s (fun _ => true) w).isSome → ¬table.Infinite w := by
  rw [paramVerify,started,elim_some]
  constructor
  · intro accepted
    by_contra wrong
    have stopped := verify_stops sound between (by simpa using wrong) enough
    simp [stopped] at accepted
  · intro fine
    have handled (node : BsonEntry) (inside : node ∈ table.nodes s) :
        Handles (table.paramVerifyCallback s) (fun state _ => state) (fun _ _ => True) node := by
      obtain ⟨w,member,exported⟩ := List.mem_filterMap.mp inside
      exact verify_accepts sound member exported (fine w member (by rw [exported]; rfl))
    obtain ⟨d',loop,document,decoded⟩ := decodeLoop_done nodes_short handled (verify_ends s)
      (along_of_forall (fun _ _ => trivial) () _) between enough
    simp only [loop,document,decoded,size,and_self,if_true]

lemma exported_infinite (infinite : table.Infinite w) : (table.exported s (fun _ => true) w).isSome := by
  obtain ⟨info,known,float,infinite⟩ := infinite
  simp [exported,known,float,agrees,atMost_inf infinite]

lemma import_ends (d : BsonDecoder) (t : ParamStore) (ended : d.item = .eoo) :
    table.paramImportCallback d t = (0,d,t) := by
  rw [paramImportCallback,if_pos ended]

def imported (table : ParamTable) (t : ParamStore) (w : ParamWbuf) : ParamStore :=
  (t.paramSetInternal table.parameters w.param (some w.val) true true).2

def importNode (table : ParamTable) (t : ParamStore) (node : BsonEntry) : ParamStore :=
  (table.paramImportCallback ⟨.closed,false,1,node.name.text,node.value.seen,0,0,0⟩ t).2.2

lemma import_called (t : ParamStore) (known : table.parameters[p]? = some info)
    (name : d.name = info.name.text) {val : BitVec 32} (number : info.type = .float → isNan val = false)
    (item : d.item = (bsonValue info.type val).seen) :
    table.paramImportCallback d t = (1,d,table.imported t ⟨val,p⟩) := by
  rw [seen_bsonValue] at item
  cases type : info.type with
  | int32 =>
    rw [type,if_pos rfl] at item
    simp [paramImportCallback,name,item,paramFind_name known,known,type,imported]
  | float =>
    rw [type,if_neg (by decide)] at item
    simp [paramImportCallback,name,item,paramFind_name known,known,type,imported,narrow_widen (number type)]

section
variable (sound : Sound table s)
include sound

lemma importNode_eq (member : w ∈ s.values) (out : table.exported s (fun _ => true) w = some node) (t : ParamStore) :
    table.importNode t node = table.imported t w := by
  obtain ⟨info,known,rfl⟩ := exported_eq out
  rw [importNode,import_called t known rfl (stored_number sound member known) rfl]

lemma import_handles (inside : node ∈ table.nodes s) :
    Handles table.paramImportCallback table.importNode (fun _ _ => True) node := by
  obtain ⟨w,member,exported⟩ := List.mem_filterMap.mp inside
  refine handles_scalar (exported_fits exported).scalar fun d t name item => ?_
  rw [importNode_eq sound member exported]
  obtain ⟨info,known,rfl⟩ := exported_eq exported
  exact import_called t known name (stored_number sound member known) item

lemma import_file {file : File} (started : bsonDecoderInitFile (file.seek 0) = some d)
    (between : d.Between 4 ((table.nodes s).flatMap bytes ++ [bsonEoo]))
    (size : d.totalDocumentSize = BitVec.ofNat 32 (4+((table.nodes s).flatMap bytes).length+1))
    (enough : (table.nodes s).length < file.content.length+1) (t : ParamStore) :
    table.paramImport (file.seek 0) t = (0,(table.nodes s).foldl table.importNode t) := by
  obtain ⟨d',loop,document,decoded⟩ := decodeLoop_done nodes_short (fun node => import_handles sound)
    import_ends (along_of_forall (fun _ _ => trivial) t _) between enough
  have content : (file.seek 0).content = file.content := rfl
  rw [paramImport,maxAttempts,paramImportInternal,started,elim_some]
  simp only [content,loop,document,decoded,size,and_self,if_true]

lemma import_values {values : List ParamWbuf} (stored : ∀ w ∈ values, w ∈ s.values)
    (sorted : SortedArray.Sorted ParamWbuf.param values) {t : ParamStore} (whole : Consistent t) :
    let after := (values.filterMap (table.exported s fun _ => true)).foldl table.importNode t
    Consistent after ∧ valueIn after.customDefaults = valueIn t.customDefaults ∧
      (∀ p, (∀ w ∈ values, w.param = p → table.exported s (fun _ => true) w = none) →
        valueIn after.values p = valueIn t.values p) ∧
      ∀ w ∈ values, ∀ info, table.parameters[w.param]? = some info →
        (table.exported s (fun _ => true) w).isSome →
        valueIn after.values w.param = some (settled info (valueIn t.values w.param) w.val) := by
  induction values generalizing t with
  | nil => exact ⟨whole,rfl,fun _ _ => rfl,by simp⟩
  | cons w rest ih =>
    have later : ∀ w' ∈ rest, w.param < w'.param := (List.pairwise_cons.mp sorted).1
    have stored' : ∀ w ∈ rest, w ∈ s.values := fun w member => stored w (List.mem_cons_of_mem _ member)
    cases out : table.exported s (fun _ => true) w with
    | none =>
      rw [List.filterMap_cons_none out]
      obtain ⟨whole,defaults,others,exact_⟩ := ih stored' sorted.of_cons whole
      refine ⟨whole,defaults,?_,?_⟩
      · exact fun p none => others p fun w' member => none w' (List.mem_cons_of_mem _ member)
      intro w' member info known some_
      rcases List.mem_cons.mp member with rfl | member
      · rw [out] at some_
        cases some_
      · exact exact_ w' member info known some_
    | some node =>
      rw [List.filterMap_cons_some out,List.foldl_cons,
        importNode_eq sound (stored w List.mem_cons_self) out]
      obtain ⟨info,known,rfl⟩ := exported_eq out
      have becomes : Becomes (table.imported t w) _ _ := (whole.set known w.val true true).2
      obtain ⟨whole,defaults,others,exact_⟩ := ih stored' sorted.of_cons becomes.consistent
      have value (p : Nat) (other : w.param ≠ p) : valueIn (table.imported t w).values p = valueIn t.values p := by
        rw [becomes.value,Function.update_of_ne other.symm]
      refine ⟨whole,defaults.trans becomes.default,?_,?_⟩
      · intro p none
        have other : w.param ≠ p := by
          intro same
          rw [none w List.mem_cons_self same] at out
          cases out
        exact (others p fun w' member => none w' (List.mem_cons_of_mem _ member)).trans (value p other)
      · intro w' member info' known' some_
        rcases List.mem_cons.mp member with rfl | member
        · rw [known,some_inj] at known'
          subst known'
          refine (others w'.param fun w'' member same => ?_).trans ?_
          · exact absurd same (later w'' member).ne'
          · rw [becomes.value,Function.update_self]
        · have set := exact_ w' member info' known' some_
          rwa [value w'.param (later w' member).ne] at set

lemma reloaded (whole : Consistent t) (reset : valueIn t.values = fun _ => none)
    (defaults : ∀ p, t.paramGetDefaultValueInternal table.parameters p = s.paramGetDefaultValueInternal table.parameters p)
    (known : table.parameters[p]? = some info) :
    ∃ before after, s.paramGet table.parameters p = some before ∧
      ((table.nodes s).foldl table.importNode t).paramGet table.parameters p = some after ∧
      info.type.Within after before := by
  obtain ⟨consistent',same,others,set⟩ := import_values sound (fun _ member => member)
    sound.consistent.changed.sorted whole
  have default := defaults p
  rw [whole.getDefault,sound.consistent.getDefault,known,map_some,map_some,some_inj] at default
  rw [nodes,sound.consistent.get,consistent'.get,known,map_some,map_some]
  refine ⟨_,_,rfl,rfl,?_⟩
  rw [same,default]
  cases stored : valueIn s.values p with
  | none =>
    rw [others p ?_,reset]
    · exact .inl rfl
    · rintro w member rfl
      rw [(valueIn_eq_some sound.consistent.changed.sorted).mpr member] at stored
      cases stored
  | some v =>
    have member : (⟨v,p⟩ : ParamWbuf) ∈ s.values := (valueIn_eq_some sound.consistent.changed.sorted).mp stored
    cases out : table.exported s (fun _ => true) ⟨v,p⟩ with
    | none =>
      rw [others p ?_,reset]
      · right
        rw [agrees_comm]
        simpa [ParamTable.exported,known,sound.consistent.getDefault] using out
      · rintro w inside rfl
        rw [sound.consistent.changed.sorted.eq_of_key inside member rfl,out]
    | some node =>
      have after := set ⟨v,p⟩ member info known (by rw [out]; rfl)
      rw [reset] at after
      rw [after]
      refine settled_within fun float => ?_
      rw [absSub_comm]
      have zero : isFinite 0 := by decide
      exact absSub_ne_nan (stored_number sound member known float) zero

end

/-- The file is written, the check accepts it, and importing it gives every parameter its value. -/
def SavesAndReloads (table : ParamTable) (s t : ParamStore) (old : List Byte) : Prop :=
  ∃ file, table.paramExportInternal s ⟨old,0⟩ (fun _ => true) = some file ∧ table.paramVerify s file = 0 ∧
    (table.paramImport (file.seek 0) t).1 = 0 ∧
    ∀ p info, table.parameters[p]? = some info → ∃ before after, s.paramGet table.parameters p = some before ∧
      (table.paramImport (file.seek 0) t).2.paramGet table.parameters p = some after ∧ info.type.Within after before

/-- Saving and reloading, for all stores that are reached by calls: only infinite floats are in the way. -/
theorem saves_iff (table : ParamTable) (calls others : List ParamCall) (old : List Byte)
    (reset : ∀ p, (others.foldl (ParamStore.step table.parameters) initial).paramsChanged p = false)
    (defaults : ∀ p, (others.foldl (ParamStore.step table.parameters) initial).paramGetDefaultValueInternal
      table.parameters p = (calls.foldl (ParamStore.step table.parameters) initial).paramGetDefaultValueInternal
      table.parameters p) :
    SavesAndReloads table (calls.foldl (ParamStore.step table.parameters) initial)
        (others.foldl (ParamStore.step table.parameters) initial) old ↔
      ∀ w ∈ (calls.foldl (ParamStore.step table.parameters) initial).paramValues.getD [], ¬ table.Infinite w := by
  have sound := table.sound_run calls
  have target := table.sound_run others
  have empty : valueIn (others.foldl (step table.parameters) initial).values = fun _ => none := by
    funext p
    have clear := reset p
    rw [target.consistent.changed.flag] at clear
    simpa using clear
  obtain ⟨file,d,written,started,between,size,enough⟩ :=
    table.export_writes (calls.foldl (step table.parameters) initial) old
  have checked := verify_iff sound started between size enough
  have loaded := import_file sound started between size enough (others.foldl (step table.parameters) initial)
  constructor
  · rintro ⟨file',written',accepted,_⟩ w member infinite
    rw [written,Option.some_inj] at written'
    subst written'
    exact checked.mp accepted w member (exported_infinite infinite) infinite
  · intro finite
    refine ⟨file,written,checked.mpr fun w member _ => finite w member,by rw [loaded],fun p info known => ?_⟩
    rw [loaded]
    exact reloaded sound target.consistent empty defaults known

def oneFloat : ParamTable where
  parameters := [⟨⟨[65],by decide⟩,.float,0x3f800000⟩]
  sorted := List.pairwise_singleton _ _
  short := by simp

theorem saves_two : SavesAndReloads oneFloat ([.set 0 (some 0x40000000)].foldl (ParamStore.step oneFloat.parameters) initial)
    ([].foldl (ParamStore.step oneFloat.parameters) initial) [7,7] := by
  refine (saves_iff oneFloat [.set 0 (some 0x40000000)] [] [7,7] (fun p => rfl) (fun p => rfl)).mpr ?_
  rintro w member ⟨info,_,_,infinite⟩
  have values : ([.set 0 (some 0x40000000)].foldl (step oneFloat.parameters) initial).paramValues =
      some [⟨0x40000000,0⟩] := rfl
  rw [values,Option.getD_some,List.mem_singleton] at member
  subst member
  exact absurd infinite (by decide)

theorem infinite_not_verified : ¬ SavesAndReloads oneFloat
    ([.set 0 (some 0x7f800000)].foldl (ParamStore.step oneFloat.parameters) initial)
    ([].foldl (ParamStore.step oneFloat.parameters) initial) [] := by
  rintro ⟨file,written,accepted,_⟩
  have refused : (oneFloat.paramExportInternal
      ([.set 0 (some 0x7f800000)].foldl (step oneFloat.parameters) initial) ⟨[],0⟩ fun _ => true).map
      (oneFloat.paramVerify ([.set 0 (some 0x7f800000)].foldl (step oneFloat.parameters) initial)) =
      some (-1) := by decide +kernel
  rw [written,Option.map_some,accepted] at refused
  exact absurd refused (by decide)

end ParamTable
end AerialManipulator
