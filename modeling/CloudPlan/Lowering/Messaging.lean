import CloudPlan.Lowering.Needs

/-!
# Queues and topics
-/

set_option autoImplicit false

namespace CloudPlan

/-- The queue of a node. Messages are kept for four days unless the node says otherwise. -/
def queueOf (node : Node) : Resource :=
  let name := Platform.queue.resourceName node.shortName
  let r := ((Resource.ofKind .queue name node.id).set "visibilityTimeoutSeconds"
    (.ofNat ((node.nat? "visibilityTimeout").getD 30))).set "messageRetentionSeconds"
    (.ofNat ((node.nat? "messageRetention").getD 345600))
  let r := if node.bool? "fifo" = some true then r.set "fifoQueue" (.bool true) else r
  let r := r.set? "delaySeconds" ((node.nat? "delaySeconds").map .ofNat)
  r.set "tags" (nodeTags node Platform.queue.name)

/-- Lowers a queue node. -/
def lowerQueue (node : Node) : Lowered :=
  .ok [queueOf node]

/-- The topic of a node. -/
def topicOf (node : Node) : Resource :=
  let name := Platform.pubsubTopic.resourceName node.shortName
  let r := Resource.ofKind .topic name node.id
  let r := if node.bool? "fifo" = some true
    then (r.set "fifoTopic" (.bool true)).set "contentBasedDeduplication" (.bool true) else r
  let r := r.set? "displayName" ((node.string? "displayName").map .string)
  r.set "tags" (nodeTags node Platform.pubsubTopic.name)

/-- Lowers a topic node. -/
def lowerTopic (node : Node) : Lowered :=
  .ok [topicOf node]

end CloudPlan
