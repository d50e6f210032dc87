/-!
# The starter script

What a new player finds in the editor.
-/

namespace MazeRobot.Script

/-- The script that a new player starts from. -/
def starter : String :=
  String.join [
    "// Robot API:\n",
    "// move() / move(n)      - move forward (default 1 step), false if blocked\n",
    "// turn(\"left\"|\"right\")  - rotate 90 degrees\n",
    "// is_empty(dir?)        - \"front\" (default), \"left\", \"right\"\n",
    "// is_goal(dir?)         - \"here\" (default), \"front\", \"left\", \"right\"\n",
    "// get_position()        - #\x7bx, y\x7d current position\n",
    "// get_goal()            - #\x7bx, y\x7d goal position\n",
    "// log(msg)              - print a message to the console\n",
    "// done()                - stop execution\n",
    "//\n",
    "// Memory API:\n",
    "// has_visited(dir?)     - was the cell visited (\"here\" by default)\n",
    "// visit_count(dir?)     - visit count for the cell\n",
    "// get_visited_cells()   - all visited cells as #\x7bx, y, count\x7d\n",
    "//\n",
    "// Keep state between ticks on `this`, e.g. `this.turns = 0;` in start().\n",
    "\n",
    "// start() runs once at the beginning\n",
    "fn start() \x7b\n",
    "    log(\"Starting robot...\");\n",
    "\x7d\n",
    "\n",
    "// update() runs every tick until done() is called or the goal is reached\n",
    "fn update() \x7b\n",
    "    if is_empty() \x7b\n",
    "        move();\n",
    "    \x7d else \x7b\n",
    "        turn(\"right\");\n",
    "    \x7d\n",
    "\n",
    "    if is_goal() \x7b\n",
    "        log(\"Goal reached!\");\n",
    "        done();\n",
    "    \x7d\n",
    "\x7d\n"]

end MazeRobot.Script
