import MeshNetwork.Node.SendResults

namespace MeshNetwork.Node

open Driver

variable (env : SendEnv) (p : ClientSide)

section unicast

end unicast

end MeshNetwork.Node
