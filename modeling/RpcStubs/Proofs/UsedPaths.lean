import RpcStubs.Generation
import RpcStubs.Proofs.Store.ClearPaths

/-! # The paths that are used

Which paths a script uses can be told from what it is asked to do.  To replace a file takes its path, the
path beside it where the content is prepared, and the folders above, which are no less clear than the path
itself.  A load takes the path of its copy, and a run those of the copy and of its output
(`Module.usedPaths`).
-/

namespace RpcStubs

open Script

namespace Script.Uses

variable {paths : Path → Prop}

theorem ensureFolder {chain : List Path} (among : ∀ folder ∈ chain, paths folder) :
    Uses paths (ensureFolder chain) := by
  induction chain with
  | nil => exact .done _ _
  | cons folder above inductionHypothesis =>
    obtain ⟨here, others⟩ := List.forall_mem_cons.1 among
    have making : Uses paths (make folder) := ⟨here, fun _ => .done _ _⟩
    have look (e : FileError) : Uses (α := Except FileError Unit) paths
        (folder? folder >>= fun there => if there then pure (.ok ()) else pure (.error e)) := by
      refine .bind ⟨here, fun _ => .done _ _⟩ fun there => ?_
      cases there <;> exact .done _ _
    refine .bind making fun made => ?_
    cases made with
    | ok _ => exact .done _ _
    | error e =>
      cases e with
      | notFound =>
        refine .bind (inductionHypothesis others) fun ready => ?_
        cases ready with
        | error e => exact .done _ _
        | ok _ =>
          refine .bind making fun made => ?_
          cases made with
          | ok _ => exact .done _ _
          | error e => exact look e
      | _ => exact look _

theorem discard {prepared : Path} (allowed : paths prepared) : Uses paths (discard prepared) := by
  refine .bind ⟨allowed, fun _ => .done _ _⟩ fun there => ?_
  cases there with
  | false => exact .done _ _
  | true =>
    refine .bind ⟨allowed, fun _ => .done _ _⟩ fun removed => ?_
    cases removed with
    | ok _ => exact .done _ _
    | error e => exact fun _ => .done _ _

theorem replaceFile {path : Path} (above : ∀ folder ∈ path.above, paths folder)
    (staged : paths path.staging) (allowed : paths path) (content : String) :
    Uses paths (replaceFile path content) := by
  refine .bind (.ensureFolder fun folder member => above folder (List.mem_reverse.1 member))
    fun made => ?_
  cases made with
  | error e => exact .done _ _
  | ok _ =>
    refine .bind ⟨staged, fun _ => .done _ _⟩ fun written => ?_
    cases written with
    | error e => exact .bind (.discard staged) fun _ => .done _ _
    | ok _ =>
      refine .bind ⟨staged, allowed, fun _ => .done _ _⟩ fun renamed => ?_
      cases renamed with
      | error e => exact .bind (.discard staged) fun _ => .done _ _
      | ok _ => exact .bind (fun _ => .done _ _) fun _ => .done _ _

end Script.Uses

variable {tree : LinkedStore}

/-! ## Loads -/

namespace Source

variable {copy : String}

theorem uses_logMethods (paths : Path → Prop) (methods : List Schema.Method) :
    Uses paths (logMethods methods) := by
  induction methods with
  | nil => exact .done _ _
  | cons method rest inductionHypothesis =>
    exact .bind (fun _ => .done _ _) fun _ => inductionHypothesis

/-- A load uses the paths that its value takes. -/
theorem uses_load {paths : Path → Prop} {source : Source} (valued : Uses paths source.value) :
    Uses paths source.load := by
  refine .bind valued fun value => ?_
  cases value with
  | error e => exact .done _ _
  | ok value =>
    dsimp only
    cases decode value with
    | error e => exact .done _ _
    | ok document =>
      exact .bind (fun _ => .done _ _) fun _ => .bind (uses_logMethods _ _) fun _ => .done _ _

theorem uses_load_saved (clear : tree.Clear (Path.ofString copy)) :
    Uses tree.Clear (saved copy).load := by
  refine uses_load (.bind ⟨clear, fun _ => .done _ _⟩ fun read => ?_)
  cases read <;> exact .done _ _

theorem uses_fetchValue (paths : Path → Prop) (url : String) : Uses paths (fetchValue url) := by
  refine .bind (fun _ => .done _ _) fun _ => ?_
  dsimp only
  cases Address.ofString? url with
  | none => exact .done _ _
  | some address =>
    dsimp only
    cases address.isWeb with
    | false => exact .done _ _
    | true => exact fun _ _ _ => trivial

theorem uses_load_fetched (url : String) (clear : tree.Clear (Path.ofString copy))
    (staged : tree.Clear (Path.ofString copy).staging) : Uses tree.Clear (fetched url copy).load := by
  refine uses_load (.bind (uses_fetchValue _ url) fun value => ?_)
  cases value with
  | error e => exact .done _ _
  | ok value =>
    have replacing := Uses.replaceFile (fun _ => clear.above) staged clear (copyText value)
    have saving : Uses tree.Clear (saveCopy copy value) := by
      refine .bind replacing fun replaced => ?_
      cases replaced with
      | error e => exact .done _ _
      | ok _ => exact fun _ => .done _ _
    refine .bind saving fun saved => ?_
    cases saved <;> exact .done _ _

end Source

/-! ## Runs -/

/-- The path that a run is to write to. -/
def Order.output (order : Order) : Path :=
  Path.ofString order.outputPath

namespace Module

variable {settings : Settings} {order : Order}

/-- The paths that a load uses besides the folders above them. -/
def loadedPaths (settings : Settings) (order : Order) : List Path :=
  match Source.resolve order.mode order.location settings with
  | .fetched _ copy => [Path.ofString copy, (Path.ofString copy).staging]
  | .saved path => [Path.ofString path]

/-- The paths that a run uses besides the folders above them. -/
def usedPaths (settings : Settings) (order : Order) : List Path :=
  order.output :: order.output.staging :: loadedPaths settings order

theorem uses_load (clear : ∀ path ∈ loadedPaths settings order, tree.Clear path) :
    Uses tree.Clear (Source.resolve order.mode order.location settings).load := by
  unfold loadedPaths at clear
  cases source : Source.resolve order.mode order.location settings with
  | fetched url copy =>
    rw [source] at clear
    exact Source.uses_load_fetched url (clear _ (by simp)) (clear _ (by simp))
  | saved path =>
    rw [source] at clear
    exact Source.uses_load_saved (clear _ (by simp))

theorem uses_run (clear : ∀ path ∈ usedPaths settings order, tree.Clear path) :
    Uses tree.Clear (run settings order) := by
  obtain ⟨output, staged, loaded⟩ : tree.Clear _ ∧ tree.Clear _ ∧
      ∀ path ∈ loadedPaths settings order, tree.Clear path := by
    simpa [usedPaths] using clear
  unfold run
  cases settings.check with
  | error e => exact .done _ _
  | ok _ =>
    refine .bind (uses_load loaded) fun result => ?_
    cases result with
    | error e => exact .done _ _
    | ok document =>
      dsimp only
      cases ofDocument settings document with
      | error e => exact .done _ _
      | ok parts =>
        have replacing := Uses.replaceFile (fun _ => output.above) staged output parts.text
        have writing : Uses tree.Clear (parts.write order.outputPath) := by
          refine .bind replacing fun replaced => ?_
          cases replaced <;> exact .done _ _
        have logging : Uses tree.Clear (parts.writeAndLog order.outputPath) := by
          refine .bind writing fun written => ?_
          cases written with
          | error e => exact .done _ _
          | ok _ => exact fun _ => .done _ _
        have printing : Uses tree.Clear parts.print := fun _ => .done _ _
        dsimp only
        split
        · refine .bind printing fun printed => ?_
          cases printed <;> exact .done _ _
        · refine .bind logging fun written => ?_
          cases written <;> exact .done _ _

end Module

end RpcStubs
